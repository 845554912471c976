import IntegrationFlow.Layout.Grid
import IntegrationFlow.Layout.Routing

/-!
# Positions

A drawn flow: a box for each node and the points of each connector.
-/

namespace IntegrationFlow.Layout

variable {κ : Type} [Coordinate κ]

/-- Where a node is drawn. -/
structure NodePosition (κ : Type) where
  bounds : Bounds κ
  rank : Nat
  row : Nat
  lane : Lane
  deriving Repr

/-- Where a flow is drawn: nodes and edges by id, in the order of the flow. -/
structure Positions (κ : Type) where
  nodes : OrderedMap String (NodePosition κ) := []
  edges : OrderedMap String (List (Point κ)) := []
  deriving Repr

namespace Positions

/-- The position of a node. -/
def node? (p : Positions κ) (id : String) : Option (NodePosition κ) := OrderedMap.get? p.nodes id

/-- The points of an edge. -/
def points? (p : Positions κ) (id : String) : Option (List (Point κ)) :=
  OrderedMap.get? p.edges id

/-- The smallest box around everything that is drawn. -/
def extent? (p : Positions κ) : Option (Bounds κ) :=
  let corners := (OrderedMap.values p.nodes).flatMap fun n =>
    [⟨n.bounds.x, n.bounds.y⟩, ⟨n.bounds.right, n.bounds.bottom⟩]
  enclosing? (corners ++ (OrderedMap.values p.edges).flatten)

end Positions

/-- Why a flow is not drawn. Only bad measures can be a reason for a flow that was built. -/
inductive LayoutError (κ : Type) where
  | badConfig (fault : ConfigFault κ)
  | unknownNode (id : String)
  | misplaced (placed total : Nat)
  | unplaced (edge node : String)

/-- The wording of an error. -/
def LayoutError.message : LayoutError Float → String
  | badConfig fault => "Layout invariant violated: " ++ fault.message
  | unknownNode id => "Layout invariant violated: ranked node '" ++ id ++ "' is not in the model"
  | misplaced placed total =>
    "Layout invariant violated: placed " ++ toString placed ++ " of " ++ toString total ++ " nodes"
  | unplaced edge node =>
    "Layout invariant violated: edge '" ++ edge ++ "' references unplaced node '" ++ node ++ "'"

/-! ### Nodes -/

/-- The upper border of a lane. -/
def laneTop (c : LayoutConfig κ) (mainRows : Nat) : Lane → κ
  | .main => c.originY
  | .auxiliary => c.originY + Coordinate.ofNat mainRows * c.rowHeight + c.laneGap

/-- The position of a node of a type in a cell, in the middle of the row. -/
def cellPosition (c : LayoutConfig κ) (mainRows : Nat) (cell : Cell) (target : TargetType) :
    NodePosition κ :=
  let width : κ := Coordinate.ofNat target.shape.size.1
  let height : κ := Coordinate.ofNat target.shape.size.2
  { bounds :=
      { x := c.columnX cell.rank
        y := laneTop c mainRows cell.lane + Coordinate.ofNat cell.row * c.rowHeight +
          half (c.rowHeight - height)
        width, height }
    rank := cell.rank, row := cell.row, lane := cell.lane }

/-- The positions of the nodes. -/
def placeNodes (c : LayoutConfig κ) (g : FlowGraph) (gr : Grid) :
    Except (LayoutError κ) (OrderedMap String (NodePosition κ)) := do
  let placed ← gr.cells.mapM fun (id, cell) =>
    match g.node? id with
    | some n => .ok (id, cellPosition c gr.mainRows cell n.target)
    | none => .error (.unknownNode id)
  let nodes := OrderedMap.ofList placed
  if nodes.length = g.nodes.length then return nodes
  else throw (.misplaced nodes.length g.nodes.length)

/-! ### Edges -/

/-- The end of an edge at a node. -/
def anchor (c : LayoutConfig κ) (mainRows : Nat) (nodes : OrderedMap String (NodePosition κ))
    (edge node : String) : Except (LayoutError κ) (Anchor κ) :=
  match OrderedMap.get? nodes node with
  | some p => .ok ⟨p.bounds, p.rank, p.row, laneTop c mainRows p.lane⟩
  | none => .error (.unplaced edge node)

/-- The routes of edges; those that join the same nodes as one in `before` are moved aside. -/
def routeEdges (c : LayoutConfig κ) (mainRows : Nat) (nodes : OrderedMap String (NodePosition κ)) :
    (before edges : List Edge) → Except (LayoutError κ) (List (String × List (Point κ)))
  | _, [] => .ok []
  | before, e :: edges => do
    let source ← anchor c mainRows nodes e.id e.source
    let target ← anchor c mainRows nodes e.id e.target
    let index := before.countP fun b => b.source == e.source && b.target == e.target
    let rest ← routeEdges c mainRows nodes (e :: before) edges
    return (e.id, route c source target index) :: rest

/-! ### Flows -/

/-- Draws a flow. -/
def place (c : LayoutConfig κ) (g : FlowGraph) : Except (LayoutError κ) (Positions κ) := do
  match c.fault? with
  | some fault => throw (.badConfig fault)
  | none =>
    let gr := grid g
    let nodes ← placeNodes c g gr
    let routes ← routeEdges c gr.mainRows nodes [] g.edgeList
    return { nodes, edges := OrderedMap.ofList routes }

end IntegrationFlow.Layout
