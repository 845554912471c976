import IntegrationFlow.OrderedMap

/-!
# JSON values

Values as the format has them: numbers keep the digits they were written with, strings may hold
surrogates that pair with nothing, and objects keep the order of their members.
-/

namespace IntegrationFlow

namespace Json

/-- A part of a string: a character, or half of one. -/
inductive Letter where
  | char (c : Char)
  | surrogate (code : Nat)
  deriving DecidableEq, Repr

/-- A number as written. Each part holds decimal digits. -/
structure Number where
  negative : Bool := false
  whole : List Char
  fraction : List Char := []
  /-- The power of ten, true for a negative one. -/
  power : Option (Bool × List Char) := none
  deriving DecidableEq, Repr

end Json

/-- A value. -/
inductive Json where
  | null
  | bool (b : Bool)
  | number (n : Json.Number)
  | string (s : List Json.Letter)
  | array (items : List Json)
  | object (members : List (List Json.Letter × Json))

namespace Json

/-! ### Text -/

/-- A text as the letters of a string. -/
def letters (s : String) : List Letter := s.toList.map .char

/-- A text as a value. -/
def ofString (s : String) : Json := .string (letters s)

/-- The text that letters spell, unless one of them is half a character. -/
def text? (s : List Letter) : Option String :=
  (s.mapM fun
    | Letter.char c => some c
    | Letter.surrogate _ => none).map String.ofList

/-- A text, or nothing, as a value. -/
def ofString? : Option String → Json
  | some s => ofString s
  | none => .null

/-- An object with named members. -/
def ofMembers (members : List (String × Json)) : Json :=
  .object (members.map fun (key, value) => (letters key, value))

/-- A natural number as a value. -/
def ofNat (n : Nat) : Json := .number { whole := Nat.toDigits 10 n }

end Json

end IntegrationFlow
