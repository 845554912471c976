import IntegrationFlow.Layout.Config

/-!
# Routes of connectors

A connector leaves a shape at the middle of its right side and enters another at the middle of its
left side. It runs upwards and downwards in the gaps between columns, and sideways on the borders
of rows.
-/

namespace IntegrationFlow.Layout

variable {κ : Type} [Coordinate κ]

/-- One end of a connector: a shape and its place in the grid. -/
structure Anchor (κ : Type) where
  bounds : Bounds κ
  rank : Nat
  row : Nat
  /-- The upper border of the lane. -/
  laneTop : κ

namespace LayoutConfig

/-- The left border of a column. -/
def columnX (c : LayoutConfig κ) (rank : Nat) : κ :=
  c.originX + Coordinate.ofNat rank * c.columnWidth

/-- The middle of the gap to the right of a column. -/
def gapAfter (c : LayoutConfig κ) (rank : Nat) : κ := c.columnX (rank + 1) - c.halfGap

/-- The middle of the gap to the left of a column. -/
def gapBefore (c : LayoutConfig κ) (rank : Nat) : κ := c.columnX rank - c.halfGap

end LayoutConfig

/-- The bends of the first connector between two shapes. To the next column it goes straight or
with one step; anywhere else it goes along the upper border of the row of its target. -/
def bends (c : LayoutConfig κ) (source target : Anchor κ) : List (Point κ) :=
  let first := source.bounds.rightMid
  let last := target.bounds.leftMid
  if target.rank = source.rank + 1 then
    if Coordinate.same first.y last.y then []
    else
      let gap := c.gapAfter source.rank
      [⟨gap, first.y⟩, ⟨gap, last.y⟩]
  else
    let out := c.gapAfter source.rank
    let into := c.gapBefore target.rank
    let border := target.laneTop + Coordinate.ofNat target.row * c.rowHeight
    [⟨out, first.y⟩, ⟨out, border⟩, ⟨into, border⟩, ⟨into, last.y⟩]

/-- The bends of a further connector between the same shapes, moved aside. A straight one gets two
bends. -/
def shiftedBends (c : LayoutConfig κ) (source target : Anchor κ) (index : Nat) : List (Point κ) :=
  let shift := Coordinate.ofNat index * c.parallelOffset
  let first := source.bounds.rightMid
  let last := target.bounds.leftMid
  match bends c source target with
  | [] =>
    let inset := (last.x - first.x) / Coordinate.ofNat 4
    [⟨first.x + inset, first.y - shift⟩, ⟨last.x - inset, last.y - shift⟩]
  | points => points.map fun p => ⟨p.x + shift, p.y - shift⟩

/-- The points of the connector with a number, from zero, among those between two shapes. -/
def route (c : LayoutConfig κ) (source target : Anchor κ) (index : Nat) : List (Point κ) :=
  let inner := if index = 0 then bends c source target else shiftedBends c source target index
  source.bounds.rightMid :: inner ++ [target.bounds.leftMid]

end IntegrationFlow.Layout
