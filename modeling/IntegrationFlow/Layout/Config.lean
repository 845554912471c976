import IntegrationFlow.Layout.Geometry
import IntegrationFlow.Target

/-!
# The grid of a diagram

Where the grid begins, how large its cells are, and how much room connectors have.
-/

namespace IntegrationFlow.Layout

/-- The measures of a grid. -/
structure LayoutConfig (κ : Type) where
  originX : κ
  originY : κ
  columnWidth : κ
  rowHeight : κ
  /-- The room between the main grid and the auxiliary lane. -/
  laneGap : κ
  /-- The distance between connectors that join the same two nodes. -/
  parallelOffset : κ
  deriving Repr

variable {κ : Type} [Coordinate κ]

/-- The width of the widest shape. -/
def activityWidth : κ := Coordinate.ofNat (Shape.activity.size).1

/-- The height of the highest shape. -/
def activityHeight : κ := Coordinate.ofNat (Shape.activity.size).2

/-- What is wrong with the measures of a grid. -/
inductive ConfigFault (κ : Type) where
  | notFinite (field : String) (value : κ)
  | columnTooNarrow (least value : κ)
  | rowTooLow (least value : κ)
  | badGaps
  | offsetTooLarge (limit value : κ)

/-- The wording of a fault. -/
def ConfigFault.message : ConfigFault Float → String
  | notFinite field value => field ++ " must be a finite number, got " ++ Decimal.print value
  | columnTooNarrow least value =>
    "column_width must be greater than " ++ Decimal.print least ++ ", got " ++ Decimal.print value
  | rowTooLow least value =>
    "row_height must be greater than " ++ Decimal.print least ++ ", got " ++ Decimal.print value
  | badGaps => "lane_gap must be non-negative and parallel_offset positive"
  | offsetTooLarge limit value =>
    "parallel_offset must be less than " ++ Decimal.print limit ++ ", got " ++
      Decimal.print value

namespace LayoutConfig

/-- The measures that are used unless others are given. -/
def standard : LayoutConfig κ where
  originX := Coordinate.ofNat 260
  originY := Coordinate.ofNat 120
  columnWidth := Coordinate.ofNat 160
  rowHeight := Coordinate.ofNat 100
  laneGap := Coordinate.ofNat 60
  parallelOffset := Coordinate.ofNat 6

instance : Inhabited (LayoutConfig κ) := ⟨standard⟩

/-- The measures by name. -/
def fields (c : LayoutConfig κ) : List (String × κ) :=
  [("origin_x", c.originX), ("origin_y", c.originY), ("column_width", c.columnWidth),
   ("row_height", c.rowHeight), ("lane_gap", c.laneGap), ("parallel_offset", c.parallelOffset)]

/-- Half of the room between the widest shapes of two columns. -/
def halfGap (c : LayoutConfig κ) : κ := half (c.columnWidth - activityWidth)

/-- The first thing that is wrong with the measures: every shape has to fit its cell, with room for
connectors. -/
def fault? (c : LayoutConfig κ) : Option (ConfigFault κ) :=
  match c.fields.find? fun f => !Coordinate.isFinite f.2 with
  | some (field, value) => some (.notFinite field value)
  | none =>
    if c.columnWidth ≤ activityWidth then some (.columnTooNarrow activityWidth c.columnWidth)
    else if c.rowHeight ≤ activityHeight then some (.rowTooLow activityHeight c.rowHeight)
    else if c.laneGap < Coordinate.ofNat 0 ∨ c.parallelOffset ≤ Coordinate.ofNat 0 then
      some .badGaps
    else if half c.halfGap ≤ c.parallelOffset then
      some (.offsetTooLarge (half c.halfGap) c.parallelOffset)
    else none

end LayoutConfig

end IntegrationFlow.Layout
