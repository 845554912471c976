import IntegrationFlow.Decimal.Shortest

/-!
# Numbers as text

A number is written with the fewest digits that read back to it. How the digits are laid out is
the choice of a style.
-/

namespace IntegrationFlow.Decimal

/-- A number taken apart: its sign, and the binary number or what stands in for one. -/
inductive Magnitude where
  | finite (mantissa : Nat) (exponent : Int)
  | infinite
  | undefined

/-- The sign and magnitude of a double. -/
def magnitude (x : Float) : Bool × Magnitude :=
  let bits := x.toBits.toNat
  let exponent : Nat := bits / 0x10000000000000 % 0x800
  let fraction : Nat := bits % 0x10000000000000
  let size :=
    if exponent = 0x7FF then (if fraction = 0 then .infinite else .undefined)
    else if exponent = 0 then .finite fraction (-1074)
    else .finite (fraction + 0x10000000000000) ((exponent : Int) - 1075)
  (bits / 0x8000000000000000 == 1, size)

/-- How a number is laid out. -/
structure Style where
  tie : Tie
  /-- What follows a whole number that is written out. -/
  wholeEnd : String
  /-- Whether a number is written out whose point stands after this many of its digits. -/
  writtenOut : Int → Bool

/-- The digits without the zeros at their end, and how many of those there were. -/
def stripZeros (digits : List Char) : List Char × Nat :=
  let kept := (digits.reverse.dropWhile (· == '0')).reverse
  (kept, digits.length - kept.length)

/-- Digits with the point after `point` of them. -/
def writeOut (wholeEnd : String) (digits : List Char) (point : Int) : String :=
  if point ≤ 0 then "0." ++ String.ofList (List.replicate (-point).toNat '0' ++ digits)
  else
    let n := point.toNat
    if digits.length ≤ n then
      String.ofList (digits ++ List.replicate (n - digits.length) '0') ++ wholeEnd
    else String.ofList (digits.take n) ++ "." ++ String.ofList (digits.drop n)

/-- Digits with the point after the first of them and a power of ten, which has a sign. -/
def writePower (digits : List Char) (power : Int) : String :=
  String.ofList (digits.take 1) ++
    (if digits.length ≤ 1 then "" else "." ++ String.ofList (digits.drop 1)) ++
    (if power < 0 then "e-" else "e+") ++ toString power.natAbs

/-- A double in a style. -/
def Style.print (style : Style) (x : Float) : String :=
  let (negative, size) := magnitude x
  let sign := if negative then "-" else ""
  match size with
  | .undefined => "NaN"
  | .infinite => sign ++ "inf"
  | .finite 0 _ => sign ++ "0" ++ style.wholeEnd
  | .finite m q =>
    let d := shortest style.tie m q
    let (digits, zeros) := stripZeros (Nat.toDigits 10 d.digits)
    let point := digits.length + zeros + d.exponent
    sign ++
      if style.writtenOut point then writeOut style.wholeEnd digits point
      else writePower digits (point - 1)

/-- Coordinates are always written out, and a whole one has no point. Of two equally near decimals
the greater is taken. -/
def plain : Style := ⟨.up, "", fun _ => true⟩

/-- A coordinate as text. -/
def print (x : Float) : String := plain.print x

end IntegrationFlow.Decimal
