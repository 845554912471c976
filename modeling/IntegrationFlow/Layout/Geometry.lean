import IntegrationFlow.Decimal.Text

/-!
# Points and boxes

Diagrams are drawn with coordinates of any type that can be added, multiplied and compared. A run
draws with doubles; exact statements about diagrams are made over the rational numbers.
-/

namespace IntegrationFlow.Layout

/-- A type of coordinates. -/
class Coordinate (κ : Type) extends Add κ, Sub κ, Mul κ, Div κ, LT κ, LE κ where
  /-- A whole number as a coordinate. -/
  ofNat : Nat → κ
  /-- Whether a coordinate is a number. -/
  isFinite : κ → Bool
  /-- Whether two coordinates are the same number. What is no number at all equals nothing. -/
  same : κ → κ → Bool
  decLt : DecidableLT κ
  decLe : DecidableLE κ

attribute [reducible, instance] Coordinate.decLt Coordinate.decLe

instance : Coordinate Float where
  ofNat := Float.ofNat
  isFinite := Float.isFinite
  same x y := x == y
  decLt := inferInstance
  decLe := inferInstance

variable {κ : Type} [Coordinate κ]

/-- Half of a length. -/
def half (x : κ) : κ := x / Coordinate.ofNat 2

/-- The lesser of two coordinates; one that is no number does not count. -/
def lower (x y : κ) : κ := if Coordinate.same x x then (if y < x then y else x) else y

/-- The greater of two coordinates; one that is no number does not count. -/
def upper (x y : κ) : κ := if Coordinate.same x x then (if x < y then y else x) else y

/-- A point. -/
structure Point (κ : Type) where
  x : κ
  y : κ
  deriving Repr

/-- A box, given by its upper left corner. -/
structure Bounds (κ : Type) where
  x : κ
  y : κ
  width : κ
  height : κ
  deriving Repr

namespace Bounds

/-- The right side of a box. -/
def right (b : Bounds κ) : κ := b.x + b.width

/-- The lower side of a box. -/
def bottom (b : Bounds κ) : κ := b.y + b.height

/-- The middle of the left side. -/
def leftMid (b : Bounds κ) : Point κ := ⟨b.x, b.y + half b.height⟩

/-- The middle of the right side. -/
def rightMid (b : Bounds κ) : Point κ := ⟨b.right, b.y + half b.height⟩

/-- Whether the insides of two boxes meet. -/
def overlaps (a b : Bounds κ) : Bool :=
  a.x < b.right && b.x < a.right && a.y < b.bottom && b.y < a.bottom

/-- The box between two corners. -/
def ofCorners (low high : Point κ) : Bounds κ :=
  ⟨low.x, low.y, high.x - low.x, high.y - low.y⟩

end Bounds

/-- The smallest box that holds points, if there are any. -/
def enclosing? : List (Point κ) → Option (Bounds κ)
  | [] => none
  | p :: ps =>
    some <| Bounds.ofCorners
      (ps.foldl (fun low q => ⟨lower low.x q.x, lower low.y q.y⟩) p)
      (ps.foldl (fun high q => ⟨upper high.x q.x, upper high.y q.y⟩) p)

end IntegrationFlow.Layout
