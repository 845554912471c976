/-!
# Shortest decimals

A binary number `m · 2 ^ q` stands for every real number that rounds to it. Among the decimals in
that interval, those on the coarsest grid of powers of ten have the fewest digits, and of these the
one nearest to the number itself is chosen.
-/

namespace IntegrationFlow.Decimal

/-- A decimal number `digits · 10 ^ exponent`. -/
structure Scientific where
  digits : Nat
  exponent : Int
  deriving DecidableEq, Repr

/-- Which of two equally near decimals is chosen. -/
inductive Tie where
  | up
  | toEven
  deriving DecidableEq, Repr

/-- The numbers that round to a binary one: `value / unit`, from `low / unit` to `high / unit`. The
ends belong to it only if `closed` holds. -/
structure Interval where
  low : Nat
  value : Nat
  high : Nat
  unit : Nat
  closed : Bool

/-- The interval of `m · 2 ^ q`. The gap below a power of two is half as wide as the one above it,
and the ends round to the number when `m` is even. -/
def Interval.ofBinary (m : Nat) (q : Int) : Interval :=
  let below := if m = 0x10000000000000 then 1 else 2
  let (scale, unit) := if 2 ≤ q then (Nat.pow 2 (q - 2).toNat, 1) else (1, Nat.pow 2 (2 - q).toNat)
  { low := (4 * m - below) * scale, value := 4 * m * scale, high := (4 * m + 2) * scale, unit,
    closed := m % 2 == 0 }

/-- The interval measured in units of `10 ^ k`. -/
def Interval.inUnitsOf (i : Interval) (k : Int) : Interval :=
  if 0 ≤ k then { i with unit := i.unit * Nat.pow 10 k.toNat }
  else
    let scale := Nat.pow 10 (-k).toNat
    { i with low := i.low * scale, value := i.value * scale, high := i.high * scale }

/-- Whether the whole number `n` lies in an interval. -/
def Interval.holds (i : Interval) (n : Nat) : Bool :=
  if i.closed then i.low ≤ n * i.unit && n * i.unit ≤ i.high
  else i.low < n * i.unit && n * i.unit < i.high

/-- The whole number nearest to the value of an interval, if one lies in the interval. -/
def Interval.nearest? (tie : Tie) (i : Interval) : Option Nat :=
  let down := i.value / i.unit
  let up := down + 1
  match i.holds down, i.holds up with
  | true, true =>
    let toDown := i.value - down * i.unit
    let toUp := up * i.unit - i.value
    if toDown < toUp then some down
    else if toUp < toDown then some up
    else
      match tie with
      | .up => some up
      | .toEven => some (if down % 2 = 0 then down else up)
  | true, false => some down
  | false, true => some up
  | false, false => none

/-- An exponent `k` for which `10 ^ k` is above the interval of `m · 2 ^ q`, but not by much. -/
def topExponent (m : Nat) (q : Int) : Int := (Nat.log2 m + q + 2) * 30103 / 100000 + 1

/-- The shortest decimal that rounds to `m · 2 ^ q`. Seventeen digits always suffice. -/
def shortest (tie : Tie) (m : Nat) (q : Int) : Scientific :=
  let top := topExponent m q
  let found := (List.range 24).findSome? fun (i : Nat) =>
    (((Interval.ofBinary m q).inUnitsOf (top - i)).nearest? tie).map
      fun n => (⟨n, top - i⟩ : Scientific)
  found.getD ⟨m, q⟩

end IntegrationFlow.Decimal
