import IntegrationFlow.Json.Decode
import IntegrationFlow.Json.Float
import IntegrationFlow.Layout.Positions

/-!
# Diagrams as JSON
-/

namespace IntegrationFlow.Layout

/-! ### Points and boxes -/

/-- A point as JSON. -/
def Point.toJson (p : Point Float) : Json :=
  .ofMembers [("x", .ofFloat p.x), ("y", .ofFloat p.y)]

/-- The point that JSON holds. -/
def Point.ofJson? (j : Json) : Option (Point Float) :=
  match j.fields? ["x", "y"] false with
  | some [x, y] => do
    return ⟨← Json.required? Json.asFloat? x, ← Json.required? Json.asFloat? y⟩
  | _ => none

/-- A box as JSON. -/
def Bounds.toJson (b : Bounds Float) : Json :=
  .ofMembers
    [("x", .ofFloat b.x), ("y", .ofFloat b.y), ("width", .ofFloat b.width),
     ("height", .ofFloat b.height)]

/-- The box that JSON holds. -/
def Bounds.ofJson? (j : Json) : Option (Bounds Float) :=
  match j.fields? ["x", "y", "width", "height"] false with
  | some [x, y, width, height] => do
    return ⟨← Json.required? Json.asFloat? x, ← Json.required? Json.asFloat? y,
      ← Json.required? Json.asFloat? width, ← Json.required? Json.asFloat? height⟩
  | _ => none

/-! ### Positions -/

/-- The position of a node as JSON. -/
def NodePosition.toJson (n : NodePosition Float) : Json :=
  .ofMembers
    [("bounds", n.bounds.toJson), ("rank", .ofNat n.rank), ("row", .ofNat n.row),
     ("lane", .ofString n.lane.name)]

/-- The position of a node that JSON holds. -/
def NodePosition.ofJson? (j : Json) : Option (NodePosition Float) :=
  match j.fields? ["bounds", "rank", "row", "lane"] false with
  | some [bounds, rank, row, lane] => do
    return {
      bounds := ← Json.required? Bounds.ofJson? bounds
      rank := ← Json.required? Json.asNat? rank
      row := ← Json.required? Json.asNat? row
      lane := ← (Json.required? Json.asName? lane).bind Lane.ofName? }
  | _ => none

/-- A drawn flow as JSON. -/
def Positions.toJson (p : Positions Float) : Json :=
  .ofMembers
    [("nodes", .ofMembers (p.nodes.map fun (id, n) => (id, n.toJson))),
     ("edges", .ofMembers (p.edges.map fun (id, points) =>
        (id, .array (points.map Point.toJson))))]

/-- The drawn flow that JSON holds. -/
def Positions.ofJson? (j : Json) : Option (Positions Float) :=
  match j.fields? ["nodes", "edges"] false with
  | some [nodes, edges] => do
    return {
      nodes := ← Json.required? (Json.asMapOf? some NodePosition.ofJson?) nodes
      edges := ← Json.required? (Json.asMapOf? some (Json.asListOf? Point.ofJson?)) edges }
  | _ => none

/-! ### Grids -/

/-- The measures of a grid as JSON. -/
def LayoutConfig.toJson (c : LayoutConfig Float) : Json :=
  .ofMembers (c.fields.map fun (name, value) => (name, .ofFloat value))

/-- The measures that JSON holds; each has a default. -/
def LayoutConfig.ofJson? (j : Json) : Option (LayoutConfig Float) :=
  let d : LayoutConfig Float := .standard
  match j.fields? (d.fields.map (·.1)) true with
  | some [originX, originY, columnWidth, rowHeight, laneGap, parallelOffset] => do
    return {
      originX := ← Json.defaulted? Json.asFloat? d.originX originX
      originY := ← Json.defaulted? Json.asFloat? d.originY originY
      columnWidth := ← Json.defaulted? Json.asFloat? d.columnWidth columnWidth
      rowHeight := ← Json.defaulted? Json.asFloat? d.rowHeight rowHeight
      laneGap := ← Json.defaulted? Json.asFloat? d.laneGap laneGap
      parallelOffset := ← Json.defaulted? Json.asFloat? d.parallelOffset parallelOffset }
  | _ => none

end IntegrationFlow.Layout
