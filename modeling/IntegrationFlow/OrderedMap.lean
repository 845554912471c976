/-!
# Maps that keep their order

A map is the list of its entries. A new key goes to the end; a key that is present keeps its place
when its value is replaced.
-/

namespace IntegrationFlow

/-- The entries of a map, in order. Keys are usually distinct; the first entry of a key counts. -/
abbrev OrderedMap (α β : Type) := List (α × β)

namespace OrderedMap

variable {α β : Type} [DecidableEq α]

/-- The value of a key. -/
def get? (m : OrderedMap α β) (key : α) : Option β :=
  (m.find? fun e => e.1 = key).map (·.2)

@[simp]
theorem get?_nil (key : α) : get? ([] : OrderedMap α β) key = none := rfl

theorem get?_cons (k : α) (v : β) (m : OrderedMap α β) (key : α) :
    get? ((k, v) :: m) key = if k = key then some v else get? m key := by
  by_cases h : k = key <;> simp [get?, h]

/-- Whether a key is present. -/
def contains (m : OrderedMap α β) (key : α) : Bool := m.any fun e => e.1 = key

/-- The keys, in order. -/
def keys (m : OrderedMap α β) : List α := m.map (·.1)

/-- The values, in order. -/
def values (m : OrderedMap α β) : List β := m.map (·.2)

/-- Sets the value of a key. -/
def insert : OrderedMap α β → α → β → OrderedMap α β
  | [], key, value => [(key, value)]
  | (k, v) :: m, key, value => if k = key then (k, value) :: m else (k, v) :: insert m key value

/-- Sets the value of a key that is not present. -/
def insertNew (m : OrderedMap α β) (key : α) (value : β) : OrderedMap α β :=
  if contains m key then m else m ++ [(key, value)]

/-- Changes the value of a key that is present. -/
def modify : OrderedMap α β → α → (β → β) → OrderedMap α β
  | [], _, _ => []
  | (k, v) :: m, key, f => if k = key then (k, f v) :: m else (k, v) :: modify m key f

/-- The map with entries set one after the other. -/
def ofList (entries : List (α × β)) : OrderedMap α β :=
  entries.foldl (fun m e => insert m e.1 e.2) []

/-- Counts one more occurrence of a key. -/
def tally (m : OrderedMap α Nat) (key : α) : OrderedMap α Nat :=
  insert m key ((get? m key).getD 0 + 1)

end OrderedMap

end IntegrationFlow
