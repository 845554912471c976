/-!
# Reading numbers

The double nearest to a decimal text: digits with an optional point and an optional power of ten,
or one of the words for the values that are no numbers.
-/

namespace IntegrationFlow.Decimal

/-- The digits at the beginning of a text and what follows them. -/
def splitDigits (cs : List Char) : List Char × List Char :=
  (cs.takeWhile Char.isDigit, cs.dropWhile Char.isDigit)

/-- The number written by decimal digits. -/
def digitsValue (digits : List Char) : Nat :=
  digits.foldl (fun n c => n * 10 + (c.toNat - '0'.toNat)) 0

/-- A sign at the beginning of a text, true for a minus, and what follows it. -/
def splitSign : List Char → Bool × List Char
  | '-' :: cs => (true, cs)
  | '+' :: cs => (false, cs)
  | cs => (false, cs)

/-- The double nearest to `digits · 10 ^ exponent`. Powers that are out of the range of doubles,
whatever the digits, are not computed. -/
def nearestDouble (digits : Nat) (exponent : Int) : Float :=
  let size := exponent + (Nat.toDigits 10 digits).length
  if digits = 0 ∨ size < -400 then 0
  else if 400 < size then 1 / 0
  else if exponent < 0 then Float.ofScientific digits true (-exponent).toNat
  else Float.ofScientific digits false exponent.toNat

/-- The power of ten at the end of a number. -/
def readPower? : List Char → Option Int
  | [] => some 0
  | c :: cs =>
    if c = 'e' ∨ c = 'E' then
      let (negative, cs) := splitSign cs
      let (digits, rest) := splitDigits cs
      if digits.isEmpty ∨ !rest.isEmpty then none
      else some (if negative then -(digitsValue digits : Int) else digitsValue digits)
    else none

/-- The number without a sign that a text stands for. -/
def readMagnitude? (cs : List Char) : Option Float :=
  match cs.map Char.toLower with
  | ['i', 'n', 'f'] | ['i', 'n', 'f', 'i', 'n', 'i', 't', 'y'] => some (1 / 0)
  | ['n', 'a', 'n'] => some (0 / 0)
  | _ =>
    let (whole, rest) := splitDigits cs
    let (fraction, rest) :=
      match rest with
      | '.' :: cs => splitDigits cs
      | _ => ([], rest)
    if whole.isEmpty ∧ fraction.isEmpty then none
    else
      (readPower? rest).map fun power =>
        nearestDouble (digitsValue (whole ++ fraction)) (power - fraction.length)

/-- The double that a text stands for. -/
def read? (s : String) : Option Float :=
  let (negative, cs) := splitSign s.toList
  (readMagnitude? cs).map fun x => if negative then -x else x

end IntegrationFlow.Decimal
