import IntegrationFlow.Graph.Basic
import IntegrationFlow.Layout.Positions
import IntegrationFlow.Bpmn.Scaffold

/-!
# Writing flows as documents

Each node of a classified and drawn flow becomes an element of the process and a shape, each edge a
connector and a line.
-/

namespace IntegrationFlow.Bpmn

open Xml (Element Content)
open Layout (Point Positions NodePosition)

/-! ### Nodes -/

/-- The value of a mandatory property: the one that is given unless it is blank, else the
default. -/
def mandatoryValue (properties : Settings) (key default : String) : String :=
  match OrderedMap.get? properties key with
  | some value => if value.isBlank then default else value.expression
  | none => default

/-- Whether a key is written ahead of the other properties of a node. -/
def isReserved (t : Template) (key : String) : Bool :=
  key == "componentType" || key == "activityType" || t.mandatory.any fun m => m.1 == key

/-- The properties of a node as they are written: its type and activity, what is mandatory, and
the rest. -/
def nodeProperties (t : Template) (n : Node) : List (String × String) :=
  [("componentType", t.target.name), ("activityType", t.activityType)] ++
    (t.mandatory.map fun (key, default) => (key, mandatoryValue n.properties key default)) ++
    ((n.properties.filter fun p => !isReserved t p.1).map fun p => (p.1, p.2.expression))

/-- The element of a node: its properties, then the connectors that enter and leave it, then the
event it stands for. -/
def flowElement (t : Template) (n : Node) : Element where
  name := "bpmn2:" ++ t.tag
  attributes := [("id", n.id), ("name", n.displayName)]
  children := List.map Content.element <|
    [extensionElement (nodeProperties t n)] ++
      n.incoming.map (Element.ofText "bpmn2:incoming") ++
      n.outgoing.map (Element.ofText "bpmn2:outgoing") ++
      (t.eventDefinition.map fun e => ({ name := "bpmn2:" ++ e } : Element)).toList

/-! ### Flows -/

/-- Why no document is written. -/
inductive GenerateError where
  | missingPosition (id : String)
  | unresolvedType (id : String)
  deriving DecidableEq, Repr

/-- The wording of an error. -/
def GenerateError.message : GenerateError → String
  | missingPosition id => "Node '" ++ id ++ "' has no computed layout position"
  | unresolvedType id =>
    "Node '" ++ id ++ "' reached generation without a resolved target type"

/-- The node an error is about. -/
def GenerateError.nodeId : GenerateError → String
  | missingPosition id => id
  | unresolvedType id => id

/-- The position of a node. -/
def positionOf (p : Positions Float) (id : String) : Except GenerateError (NodePosition Float) :=
  match p.node? id with
  | some position => .ok position
  | none => .error (.missingPosition id)

/-- The element and the shape of a node. -/
def renderNode (custom : List Template) (p : Positions Float) (n : Node) :
    Except GenerateError (Element × Element) :=
  match if n.target.isResolved then template? custom n.target else none with
  | none => .error (.unresolvedType n.id)
  | some t => do
    let position ← positionOf p n.id
    return (flowElement t n, shapeElement n.id position.bounds)

/-- The points of an edge; one that has no route goes straight. -/
def edgePoints (p : Positions Float) (e : Edge) : Except GenerateError (List (Point Float)) :=
  match p.points? e.id with
  | some points => .ok points
  | none => do
    let source ← positionOf p e.source
    let target ← positionOf p e.target
    return [source.bounds.rightMid, target.bounds.leftMid]

/-- The connector and the line of an edge. -/
def renderEdge (p : Positions Float) (e : Edge) : Except GenerateError (Element × Element) := do
  let points ← edgePoints p e
  return (sequenceFlow e.id e.source e.target e.kind e.condition,
    diagramEdge e.id e.source e.target points)

/-- The manifest of a flow. -/
def Manifest.ofGraph (m : FlowMeta) (g : FlowGraph) : Manifest where
  toFlowMeta := m
  nodeCount := g.nodes.length
  edgeCount := g.edges.length
  componentTypes := g.histogram

/-- The document of a flow, with its manifest. -/
def generate (custom : List Template) (g : FlowGraph) (p : Positions Float) (m : FlowMeta) :
    Except GenerateError (Document × Manifest) := do
  let nodes ← g.nodeList.mapM (renderNode custom p)
  let edges ← g.edgeList.mapM (renderEdge p)
  let parts := nodes ++ edges
  return (.ofContent m p.extent? (parts.map (·.1)) (parts.map (·.2)), .ofGraph m g)

end IntegrationFlow.Bpmn
