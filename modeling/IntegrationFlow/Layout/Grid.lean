import IntegrationFlow.Graph.Reach
import IntegrationFlow.Layout.Rank

/-!
# Grids

A node that a start leads to stands in the main lane, any other in the auxiliary lane. Its column is
its rank; within a column of a lane, nodes stand below each other in the order in which they are
found.
-/

namespace IntegrationFlow.Layout

/-- The two lanes. -/
inductive Lane where
  | main
  | auxiliary
  deriving DecidableEq, Repr

/-- The name of a lane. -/
def Lane.name : Lane → String
  | .main => "main"
  | .auxiliary => "auxiliary"

/-- The lane with a name. -/
def Lane.ofName? : String → Option Lane
  | "main" => some .main
  | "auxiliary" => some .auxiliary
  | _ => none

/-- The place of a node. -/
structure Cell where
  rank : Nat
  row : Nat
  lane : Lane
  deriving DecidableEq, Repr

/-! ### Lanes -/

/-- The nodes that the starts lead to along the sequence of steps, nearest first. -/
def mainLane (g : FlowGraph) : List String :=
  Search.reach
    (fun id => ((g.outgoing id).filter fun e => e.kind == .sequence).map Edge.target)
    (vertices g) (g.starts.map Node.id)

/-! ### Cells -/

/-- The cells of the nodes of a lane: each row counts the earlier nodes of the same rank. -/
def laneCells (rankOf : String → Nat) (lane : Lane) :
    (before members : List String) → List (String × Cell)
  | _, [] => []
  | before, id :: ids =>
    (id, ⟨rankOf id, before.countP fun b => rankOf b = rankOf id, lane⟩) ::
      laneCells rankOf lane (id :: before) ids

/-- The number of rows that the nodes of a lane need. -/
def rowsNeeded (rankOf : String → Nat) (members : List String) : Nat :=
  (members.map fun id => members.countP fun b => rankOf b = rankOf id).foldl max 0

/-- The places of the nodes of a flow, and the number of rows of its main lane. -/
structure Grid where
  cells : List (String × Cell)
  mainRows : Nat

/-- The grid of a flow. -/
def grid (g : FlowGraph) : Grid :=
  let ids := nodeIds g
  let rankMap := ranks ids (forward g (backEdges g))
  let rankOf id := (OrderedMap.get? rankMap id).getD 0
  let main := mainLane g
  let auxiliary := ids.filter fun id => id ∉ main
  let cells : OrderedMap String Cell :=
    OrderedMap.ofList (laneCells rankOf .main [] main ++ laneCells rankOf .auxiliary [] auxiliary)
  { cells := ids.filterMap fun id => (OrderedMap.get? cells id).map fun cell => (id, cell)
    mainRows := rowsNeeded rankOf main }

end IntegrationFlow.Layout
