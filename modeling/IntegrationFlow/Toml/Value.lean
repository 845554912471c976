import IntegrationFlow.OrderedMap

/-!
# TOML values

A value, and the tables of a document while it is read. A table is defined once: by a header, by an
inline table, or by dotted keys that follow each other in one place.
-/

namespace IntegrationFlow.Toml

/-- A value. -/
inductive Value where
  | string (s : String)
  | integer (n : Int)
  | float (x : Float)
  | bool (b : Bool)
  /-- A date, a time of day or both, as written. -/
  | moment (s : String)
  | array (items : List Value)
  | table (entries : List (String × Value))

/-- How a table came to be. -/
inductive Definition where
  /-- By a header of its own. -/
  | header
  /-- By the header of a table within it. -/
  | implied
  /-- By dotted keys. -/
  | dotted
  deriving DecidableEq, Repr

/-- An entry of a document. -/
inductive Item where
  | value (v : Value)
  | table (definition : Definition) (entries : List (String × Item))
  /-- Tables with one header; the last of them is being filled. -/
  | tables (items : List (List (String × Item)))

/-- The entries of a table. -/
abbrev Entries := List (String × Item)

/-! ### Finished documents -/

mutual

/-- The value that an entry has in the end. -/
def Item.toValue : Item → Value
  | .value v => v
  | .table _ entries => .table (valuesOf entries)
  | .tables items => .array (tablesOf items)

/-- The values of entries. -/
def valuesOf : List (String × Item) → List (String × Value)
  | [] => []
  | (key, item) :: entries => (key, item.toValue) :: valuesOf entries

/-- The values of tables. -/
def tablesOf : List (List (String × Item)) → List Value
  | [] => []
  | entries :: items => .table (valuesOf entries) :: tablesOf items

end

/-! ### Filling tables -/

/-- Changes the table that a path leads to. Tables on the way are made where there are none, and of
tables with one header the last is taken. A path of dotted keys does not enter a table that has a
header. -/
def alterAt (dotted : Bool) (f : Definition → Entries → Option Entries) :
    List String → Definition → Entries → Option Entries
  | [], definition, entries => f definition entries
  | key :: path, _, entries =>
    match OrderedMap.get? entries key with
    | none =>
      let definition := if dotted then .dotted else .implied
      (alterAt dotted f path definition []).map fun inner =>
        entries ++ [(key, .table definition inner)]
    | some (.value _) => none
    | some (.table definition inner) =>
      if dotted ∧ definition = .header then none
      else
        (alterAt dotted f path definition inner).map fun inner =>
          OrderedMap.insert entries key (.table definition inner)
    | some (.tables items) =>
      match items.getLast? with
      | none => none
      | some last =>
        (alterAt dotted f path .header last).map fun last =>
          OrderedMap.insert entries key (.tables (items.dropLast ++ [last]))

/-- Adds a value under a dotted key, given by the tables it leads through and its last part. The
last of those tables must come from dotted keys, and the value must be its first. -/
def addValue (path : List String) (key : String) (v : Value) :
    Definition → Entries → Option Entries :=
  alterAt true (fun definition entries =>
    if decide (definition = .dotted) = path.isEmpty ∨ OrderedMap.contains entries key then none
    else some (entries ++ [(key, .value v)])) path

/-- Makes the table of a header, unless it has been defined. -/
def addTable (key : String) (_ : Definition) (entries : Entries) : Option Entries :=
  match OrderedMap.get? entries key with
  | none => some (entries ++ [(key, .table .header [])])
  | some (.table .implied inner) => some (OrderedMap.insert entries key (.table .header inner))
  | some _ => none

/-- Makes one more table of a header for several. -/
def addTables (key : String) (_ : Definition) (entries : Entries) : Option Entries :=
  match OrderedMap.get? entries key with
  | none => some (entries ++ [(key, .tables [[]])])
  | some (.tables items) => some (OrderedMap.insert entries key (.tables (items ++ [[]])))
  | some _ => none

end IntegrationFlow.Toml
