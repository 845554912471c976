import IntegrationFlow.Graph.Basic
import IntegrationFlow.Graph.Search

/-!
# Ranks

The rank of a node is the length of the longest path that leads to it, so that a flow reads from
left to right. Edges that close a cycle do not count.
-/

namespace IntegrationFlow.Layout

/-! ### Edges that lead back -/

/-- The ids of the nodes, in order. -/
def nodeIds (g : FlowGraph) : List String := g.nodeList.map Node.id

/-- Everything that an edge may lead to. -/
def vertices (g : FlowGraph) : List String := nodeIds g ++ g.edgeList.map Edge.target

/-- The ids of the edges that close a cycle, as a search from the starts and then from the other
nodes finds them. -/
def backEdges (g : FlowGraph) : List String :=
  (Search.closings g.outgoing Edge.target (vertices g)
    (g.starts.map Node.id ++ nodeIds g)).map fun c => c.edge.id

/-- Where the edges of a node lead, but for those that close a cycle. -/
def forward (g : FlowGraph) (back : List String) (id : String) : List String :=
  ((g.outgoing id).filter fun e => e.id ∉ back).map Edge.target

/-! ### Longest paths -/

/-- The state of ranking: the nodes whose rank is settled but not passed on, how many edges each
node still waits for, and the ranks so far. -/
structure Ranking where
  ready : List String
  waiting : OrderedMap String Nat
  ranks : OrderedMap String Nat

namespace Ranking

/-- Passes a rank on along an edge. -/
def release (here : Nat) (r : Ranking) (target : String) : Ranking where
  ready := if OrderedMap.get? r.waiting target = some 1 then r.ready ++ [target] else r.ready
  waiting := OrderedMap.modify r.waiting target (· - 1)
  ranks := OrderedMap.modify r.ranks target (max · (here + 1))

/-- Passes on the rank of the first node that is ready. -/
def step? (next : String → List String) (r : Ranking) : Option Ranking :=
  match r.ready with
  | [] => none
  | id :: ready =>
    some ((next id).foldl (release ((OrderedMap.get? r.ranks id).getD 0)) { r with ready })

/-- How many nodes still wait. -/
def waitingCount (waiting : OrderedMap String Nat) : Nat := waiting.countP fun e => 0 < e.2

/-- An edge that is passed lets a node go that waited for it alone. -/
theorem waitingCount_modify (m : OrderedMap String Nat) (key : String) :
    waitingCount (OrderedMap.modify m key (· - 1)) +
      (if OrderedMap.get? m key = some 1 then 1 else 0) ≤ waitingCount m := by
  induction m with
  | nil => simp [OrderedMap.modify, waitingCount]
  | cons e m ih =>
    obtain ⟨k, d⟩ := e
    rw [OrderedMap.get?_cons]
    by_cases h : k = key
    · by_cases hd : d = 1
      · simp [OrderedMap.modify, waitingCount, h, hd]
      · simp only [OrderedMap.modify, waitingCount, h, if_true, List.countP_cons,
          Option.some.injEq, hd, if_false, decide_eq_true_eq]
        split <;> split <;> omega
    · simp only [waitingCount] at ih
      simp only [OrderedMap.modify, waitingCount, h, if_false, List.countP_cons]
      omega

theorem measure_release (here : Nat) (r : Ranking) (target : String) :
    (release here r target).ready.length + waitingCount (release here r target).waiting ≤
      r.ready.length + waitingCount r.waiting := by
  have := waitingCount_modify r.waiting target
  simp only [release]
  split at this
  · simp_all
    omega
  · simp_all

theorem measure_foldl_release (here : Nat) (r : Ranking) (targets : List String) :
    (targets.foldl (release here) r).ready.length +
        waitingCount (targets.foldl (release here) r).waiting ≤
      r.ready.length + waitingCount r.waiting := by
  induction targets generalizing r with
  | nil => simp
  | cons t ts ih => exact Nat.le_trans (ih _) (measure_release here r t)

theorem step?_decreasing {next : String → List String} {r s : Ranking}
    (h : r.step? next = some s) :
    s.ready.length + waitingCount s.waiting < r.ready.length + waitingCount r.waiting := by
  unfold step? at h
  split at h
  · simp at h
  · rename_i id ready hr
    cases h
    have := measure_foldl_release ((OrderedMap.get? r.ranks id).getD 0) { r with ready } (next id)
    simp only [hr, List.length_cons] at this ⊢
    omega

/-- Passes on ranks until no node is ready. -/
def run (next : String → List String) (r : Ranking) : Ranking :=
  match _ : r.step? next with
  | none => r
  | some s => run next s
termination_by r.ready.length + waitingCount r.waiting
decreasing_by exact step?_decreasing ‹_›

end Ranking

/-- How many edges lead to each node. -/
def inDegrees (ids : List String) (next : String → List String) : OrderedMap String Nat :=
  let degrees : OrderedMap String Nat := OrderedMap.ofList (ids.map fun id => (id, 0))
  (ids.flatMap next).foldl (fun m target => OrderedMap.modify m target (· + 1)) degrees

/-- The rank of each node. -/
def ranks (ids : List String) (next : String → List String) : OrderedMap String Nat :=
  let waiting := inDegrees ids next
  let ready := ids.filter fun id => OrderedMap.get? waiting id = some 0
  let ranks := OrderedMap.ofList (ids.map fun id => (id, 0))
  (Ranking.run next ⟨ready, waiting, ranks⟩).ranks

end IntegrationFlow.Layout
