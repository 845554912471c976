import IntegrationFlow.Json.Basic

/-!
# Taking values out of JSON

Each function reads one kind of value and answers nothing where the JSON does not hold one. A
record may be given as an object or as the array of its fields in order.
-/

namespace IntegrationFlow.Json

/-! ### Plain values -/

/-- The text of a string. -/
def asString? : Json → Option String
  | .string s => text? s
  | _ => none

/-- The items of an array. -/
def asArray? : Json → Option (List Json)
  | .array items => some items
  | _ => none

/-- A text, or nothing when the value is missing or null. -/
def asOptionalString? : Option Json → Option (Option String)
  | none | some .null => some none
  | some j => j.asString?.map some

/-- The name of one of several alternatives: a string, or an object whose only member is null. -/
def asName? : Json → Option String
  | .string s => text? s
  | .object [(key, .null)] => text? key
  | _ => none

/-- An item for each item of an array. -/
def asListOf? {α : Type} (item : Json → Option α) (j : Json) : Option (List α) :=
  j.asArray?.bind fun items => items.mapM item

/-- A value for each key of an object. A later value for a key takes the place of the earlier. -/
def asMapOf? {α β : Type} [DecidableEq α] (key : String → Option α) (value : Json → Option β) :
    Json → Option (OrderedMap α β)
  | .object members => do
    let entries ← members.mapM fun (k, j) => do
      return ((← (text? k).bind key), (← value j))
    return OrderedMap.ofList entries
  | _ => none

/-! ### Numbers -/

/-- The number that decimal digits stand for. -/
def digitsValue (digits : List Char) : Nat :=
  digits.foldl (fun n c => n * 10 + (c.toNat - '0'.toNat)) 0

/-- A whole number of at most 64 bits, without sign, point or power. -/
def asNat? : Json → Option Nat
  | .number ⟨false, whole, [], none⟩ =>
    let n := digitsValue whole
    if n < 0x10000000000000000 then some n else none
  | _ => none

/-- Reads digits behind `n` as long as the result fits in 64 bits; the rest is left. -/
def absorb : Nat → List Char → Nat × List Char
  | n, [] => (n, [])
  | n, c :: cs =>
    let next := n * 10 + (c.toNat - '0'.toNat)
    if next < 0x10000000000000000 then absorb next cs else (n, c :: cs)

/-- Multiplies a number below `2 ^ 64` by `10 ^ power`, in one step where that power is a double and
in two below that. There is no result above the range of doubles. -/
def scale? (x : Float) (power : Int) : Option Float :=
  if 308 < power then (if x == 0 then some x else none)
  else if 0 ≤ power then
    let y := x * Float.ofScientific 1 false power.toNat
    if y.isInf then none else some y
  else if -308 ≤ power then some (x / Float.ofScientific 1 false (-power).toNat)
  else if -616 ≤ power then some (x / 1e308 / Float.ofScientific 1 false (-power - 308).toNat)
  else some 0

/-- The double for a number as written: the digits that fit in 64 bits, scaled by the power that
remains. -/
def Number.toFloat? (n : Number) : Option Float :=
  let (mantissa, left) := absorb 0 n.whole
  let (mantissa, leftFraction) := absorb mantissa n.fraction
  let point : Int := left.length - (n.fraction.length - leftFraction.length : Nat)
  let size := mantissa.toUInt64.toFloat
  let result :=
    match n.power with
    | none => if n.fraction.isEmpty ∧ left.isEmpty then some size else scale? size point
    | some (negative, digits) =>
      let power := digitsValue digits
      if 0x80000000 ≤ power then (if mantissa = 0 ∨ negative then some 0 else none)
      else scale? size (point + if negative then -(power : Int) else power)
  result.map fun x => if n.negative then -x else x

/-- A number. -/
def asFloat? : Json → Option Float
  | .number n => n.toFloat?
  | _ => none

/-! ### Records -/

/-- The value of a key that occurs at most once. -/
def member? (members : List (List Letter × Json)) (key : String) : Option (Option Json) :=
  match members.filter fun m => m.1 = letters key with
  | [] => some none
  | [(_, j)] => some (some j)
  | _ => none

/-- The fields of a record with these names, each of them if it is present. An object may have more
members, but no field twice and no key that is not text. An array has one item for each field, or
fewer if `short` allows it. -/
def fields? (names : List String) (short : Bool) : Json → Option (List (Option Json))
  | .object members =>
    if members.all fun m => (text? m.1).isSome then names.mapM (member? members) else none
  | .array items =>
    if items.length = names.length ∨ (short ∧ items.length < names.length) then
      some (items.map some ++ List.replicate (names.length - items.length) none)
    else none
  | _ => none

/-- A field that has to be present. -/
def required? {α : Type} (value : Json → Option α) (field : Option Json) : Option α :=
  field.bind value

/-- A field that has a default. -/
def defaulted? {α : Type} (value : Json → Option α) (default : α) : Option Json → Option α
  | none => some default
  | some j => value j

end IntegrationFlow.Json
