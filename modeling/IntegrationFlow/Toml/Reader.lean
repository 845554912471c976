import IntegrationFlow.Toml.Lexeme
import IntegrationFlow.Toml.Scalar

/-!
# Reading TOML

A document is a sequence of lines: blank ones, headers of tables, and keys with their values. A
value may go on over several lines.
-/

namespace IntegrationFlow.Toml

/-! ### Values -/

/-- An array or inline table that is not finished. -/
inductive Frame where
  | array (items : List Value)
  /-- A table whose last key waits for its value. -/
  | table (entries : Entries) (path : List String) (key : String)

/-- A value that is being read: what is not finished, innermost first, and the value that was
read last, if it has not been put in its place. -/
structure Reading where
  stack : List Frame := []
  done : Option Value := none
  rest : List Char

namespace Reading

/-- Begins an entry of an inline table. -/
def beginEntry? (stack : List Frame) (entries : Entries) (cs : List Char) : Option Reading :=
  match key? cs with
  | some (path, key, '=' :: cs) => some ⟨.table entries path key :: stack, none, skipBlanks cs⟩
  | _ => none

/-- Begins a value. -/
def begin? (stack : List Frame) : List Char → Option Reading
  | '[' :: cs =>
    if stack.length + 1 < depthLimit then
      match skipLines false cs with
      | ']' :: cs => some ⟨stack, some (.array []), cs⟩
      | cs => some ⟨.array [] :: stack, none, cs⟩
    else none
  | '\x7b' :: cs =>
    if stack.length + 1 < depthLimit then
      match skipBlanks cs with
      | '\x7d' :: cs => some ⟨stack, some (.table []), cs⟩
      | cs => beginEntry? stack [] cs
    else none
  | '"' :: cs => (quoted? ('"' :: cs)).map fun (s, rest) => ⟨stack, some (.string s), rest⟩
  | '\'' :: cs => (quoted? ('\'' :: cs)).map fun (s, rest) => ⟨stack, some (.string s), rest⟩
  | cs => (word? (takeWord cs).1).map fun v => ⟨stack, some v, (takeWord cs).2⟩

/-- Puts a value in its place and goes on to the next. -/
def place? (v : Value) (cs : List Char) : List Frame → Option Reading
  | [] => none
  | .array items :: stack =>
    let items := items ++ [v]
    match skipLines false cs with
    | ']' :: cs => some ⟨stack, some (.array items), cs⟩
    | ',' :: cs =>
      match skipLines false cs with
      | ']' :: cs => some ⟨stack, some (.array items), cs⟩
      | cs => some ⟨.array items :: stack, none, cs⟩
    | _ => none
  | .table entries path key :: stack =>
    (addValue path key v .header entries).bind fun entries =>
      match skipBlanks cs with
      | '\x7d' :: cs => some ⟨stack, some (.table (valuesOf entries)), cs⟩
      | ',' :: cs => beginEntry? stack entries cs
      | _ => none

/-- Goes on with a value. -/
def next? (r : Reading) : Option Reading :=
  match r.done with
  | none => begin? r.stack r.rest
  | some v => place? v r.rest r.stack

/-- Reads a value to its end. Every step takes something off the text. -/
def finish? (r : Reading) : Option (Value × List Char) :=
  match r.stack, r.done with
  | [], some v => some (v, r.rest)
  | _, _ =>
    match r.next? with
    | none => none
    | some next => if next.rest.length < r.rest.length then next.finish? else none
termination_by r.rest.length

end Reading

/-- The value at the front of a text, and the rest. -/
def value? (cs : List Char) : Option (Value × List Char) :=
  Reading.finish? { rest := skipBlanks cs }

/-! ### Documents -/

/-- A document as far as it has been read: its entries, and the path of the header that was last. -/
structure Document where
  entries : Entries := []
  header : List String := []

namespace Document

/-- Makes the table of a header. -/
def enter? (d : Document) (add : String → Definition → Entries → Option Entries)
    (path : List String) (key : String) : Option Document :=
  (alterAt false (add key) path .header d.entries).map fun entries => ⟨entries, path ++ [key]⟩

/-- Adds a value to the table of the last header. -/
def add? (d : Document) (path : List String) (key : String) (v : Value) : Option Document :=
  (alterAt false (addValue path key v) d.header .header d.entries).map fun entries =>
    { d with entries }

/-- Reads a line, which does not begin with a blank. -/
def line? (d : Document) : List Char → Option (Document × List Char)
  | '[' :: '[' :: cs =>
    match key? cs with
    | some (path, key, ']' :: ']' :: cs) => do
      return (← d.enter? addTables path key, ← endLine? cs)
    | _ => none
  | '[' :: cs =>
    match key? cs with
    | some (path, key, ']' :: cs) => do
      return (← d.enter? addTable path key, ← endLine? cs)
    | _ => none
  | cs =>
    match endLine? cs with
    | some rest => some (d, rest)
    | none =>
      match key? cs with
      | some (path, key, '=' :: cs) => do
        let (v, cs) ← value? cs
        return (← d.add? path key v, ← endLine? cs)
      | _ => none

/-- Reads the lines of a text. Every line takes something off it. -/
def lines? (d : Document) (cs : List Char) : Option Document :=
  match skipBlanks cs with
  | [] => some d
  | c :: rest =>
    match d.line? (c :: rest) with
    | none => none
    | some (d, rest) => if rest.length < cs.length then d.lines? rest else none
termination_by cs.length

end Document

/-- The entries of the document in a text. A byte order mark may come first. -/
def parse? (s : String) : Option (List (String × Value)) :=
  let cs :=
    match s.toList with
    | '\uFEFF' :: cs => cs
    | cs => cs
  (Document.lines? {} cs).map fun d => valuesOf d.entries

end IntegrationFlow.Toml
