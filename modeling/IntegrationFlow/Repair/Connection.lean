import IntegrationFlow.Decimal.Reader
import IntegrationFlow.Graph.Reach
import IntegrationFlow.Repair.Reference

/-!
# Connection with the start

In a flow with one start, every node leads to the start or is led to from it. The check joins the
others to the start.
-/

namespace IntegrationFlow.Repair

open Xml (Element)
open Bpmn (Document)
open Layout (Point Bounds)

/-! ### Nodes to attach -/

/-- The nodes that `start` leads to or that lead to it. -/
def connected (start : String) (flows : List (String × String)) : List String :=
  let vertices := start :: flows.flatMap fun (s, t) => [s, t]
  let search (next : String → List String) := Search.reach next vertices [start]
  search (fun v => (flows.filter fun f => f.1 == v).map (·.2)) ++
    search (fun v => (flows.filter fun f => f.2 == v).map (·.1))

/-- Whether a flow enters a node from another one that is not connected either. -/
def isFed (flows : List (String × String)) (loose : List String) (node : String) : Bool :=
  flows.any fun (s, t) => t == node && s != node && loose.contains s

/-- The node to attach next: the first that no loose node leads to, else the first. -/
def nextToAttach? (flows : List (String × String)) (loose : List String) : Option String :=
  (loose.find? fun n => !isFed flows loose n).or loose.head?

theorem mem_of_nextToAttach?_eq_some {flows : List (String × String)} {loose : List String}
    {node : String} (h : nextToAttach? flows loose = some node) : node ∈ loose := by
  unfold nextToAttach? at h
  rcases Option.or_eq_some_iff.mp h with h | ⟨_, h⟩
  · exact List.mem_of_find?_eq_some h
  · exact List.mem_of_head? h

/-- The nodes without a connection with the start. -/
def looseNodes (start : String) (flows : List (String × String)) (nodes : List String) :
    List String :=
  nodes.filter (· ∉ connected start flows)

/-- The nodes to attach to the start, one after the other. Each brings those along that it leads
to, so what remains of `nodes` is looked at again after every step. -/
def attachments (start : String) (flows : List (String × String)) (nodes : List String) :
    List String :=
  match _ : nextToAttach? flows (looseNodes start flows nodes) with
  | none => []
  | some node =>
    node :: attachments start (flows ++ [(start, node)])
      ((looseNodes start flows nodes).filter (· ≠ node))
termination_by nodes.length
decreasing_by
  refine Nat.lt_of_lt_of_le ?_ (List.length_filter_le (· ∉ connected start flows) nodes)
  exact List.length_filter_lt_length_iff_exists.mpr
    ⟨node, mem_of_nextToAttach?_eq_some ‹_›, by simp⟩

/-! ### Attaching -/

/-- The id of the connector that attaches a node. -/
def attachmentId (node : String) : String := "SequenceFlow_repair_" ++ node

/-- Adds a connector from the start to a node and lists it at both. -/
def attachInProcess (start node : String) (process : Element) : Element :=
  let id := attachmentId node
  (process.push (Bpmn.sequenceFlow id start node .sequence none)).mapElements fun e =>
    if e.attr "id" = some start then addReference process.namespacePart .outgoing id e
    else if e.attr "id" = some node then addReference process.namespacePart .incoming id e
    else e

/-- The box of a shape. -/
def shapeBounds? (shape : Element) : Option (Bounds Float) := do
  let bounds ← shape.find "Bounds"
  let number (key : String) : Option Float := (bounds.attr key).bind fun s =>
    Decimal.read? (Text.trim s)
  return ⟨← number "x", ← number "y", ← number "width", ← number "height"⟩

/-- The box of the first shape of an element. -/
def elementBounds? (plane : Element) (id : String) : Option (Bounds Float) :=
  ((plane.findAll "BPMNShape").find? fun s => s.attr "bpmnElement" == some id).bind shapeBounds?

/-- A line between two boxes, with an upright piece half way if they are not level. -/
def attachmentPoints (source target : Bounds Float) : List (Point Float) :=
  let a := source.rightMid
  let b := target.leftMid
  let middle := (a.x + b.x) / 2
  if a.y == b.y then [a, b] else [a, ⟨middle, a.y⟩, ⟨middle, b.y⟩, b]

/-- Draws the connector, if both ends are drawn. -/
def attachInPlane (start node : String) (plane : Element) : Element :=
  match elementBounds? plane start, elementBounds? plane node with
  | some source, some target =>
    plane.push
      (Bpmn.diagramEdge (attachmentId node) start node (attachmentPoints source target))
  | _, _ => plane

/-- Attaches a node to the start. -/
def attach (start node : String) (d : Document) : Document :=
  (d.modifyProcess (attachInProcess start node)).modifyPlane (attachInPlane start node)

/-! ### The check -/

/-- The ids of the flow nodes of a document. -/
def flowNodeIds (d : Document) : List String := d.flowNodes.filterMap fun e => e.attr "id"

/-- The ids of the starts of a document. -/
def startIds (d : Document) : List String :=
  (d.flowNodes.filter fun e => e.localName == "startEvent").filterMap fun e => e.attr "id"

/-- The ends of the connectors of a document. -/
def flowEnds (d : Document) : List (String × String) :=
  d.connectors.filterMap fun e => do return (← e.attr "sourceRef", ← e.attr "targetRef")

/-- Attaches the nodes that have no connection with the start. Without exactly one start there is
nothing to attach them to. -/
def unconnectedNodes : Check where
  name := "unconnected-node"
  apply d :=
    match startIds d with
    | [start] =>
      let nodes := attachments start (flowEnds d) (flowNodeIds d)
      (nodes.foldl (fun d node => attach start node d) d,
        nodes.map fun node =>
          repaired (some node) <|
            "Attached unconnected node to start '" ++ start ++ "' with connector '" ++
              attachmentId node ++ "'")
    | _ => (d, [])

end IntegrationFlow.Repair
