import IntegrationFlow.Layout.Geometry
import IntegrationFlow.Bpmn.Template
import IntegrationFlow.Record
import IntegrationFlow.Xml.Element

/-!
# Process documents

A process document has a process, which holds flow nodes and the connectors between them, and a
diagram, whose plane holds a shape for each node and a line for each connector.
-/

namespace IntegrationFlow.Bpmn

open Xml (Element)
open Layout (Point Bounds)

/-- A process document, given by its root. -/
structure Document where
  root : Element

/-! ### Parts -/

/-- The tags of flow nodes. -/
def flowNodeTags : List String :=
  ["startEvent", "endEvent", "serviceTask", "callActivity", "exclusiveGateway", "parallelGateway"]

/-- Whether an element is a flow node. -/
def isFlowNode (e : Element) : Bool := e.localName ∈ flowNodeTags

/-- Whether an element is a connector. -/
def isConnector (e : Element) : Bool := e.localName == "sequenceFlow"

namespace Document

/-- The process. -/
def process? (d : Document) : Option Element := d.root.find "process"

/-- The plane of the diagram. -/
def plane? (d : Document) : Option Element :=
  (d.root.find "BPMNDiagram").bind fun diagram => diagram.find "BPMNPlane"

/-- The flow nodes of the process. -/
def flowNodes (d : Document) : List Element :=
  (d.process?.map Element.elements).getD [] |>.filter isFlowNode

/-- The connectors of the process. -/
def connectors (d : Document) : List Element :=
  (d.process?.map Element.elements).getD [] |>.filter isConnector

/-- Changes the process. -/
def modifyProcess (d : Document) (f : Element → Element) : Document :=
  ⟨d.root.modifyFirst (fun e => e.localName == "process") f⟩

/-- Changes the plane of the diagram. -/
def modifyPlane (d : Document) (f : Element → Element) : Document :=
  ⟨d.root.modifyFirst (fun e => e.localName == "BPMNDiagram") fun diagram =>
    diagram.modifyFirst (fun e => e.localName == "BPMNPlane") f⟩

end Document

/-! ### Properties -/

/-- A property with its key and value. -/
def property (key value : String) : Element :=
  { name := "ifl:property"
    children := [.element (.ofText "key" key), .element (.ofText "value" value)] }

/-- The text of the first child with a name, or the empty text. -/
def childText (e : Element) (name : String) : String := ((e.find name).map Element.text).getD ""

/-- The keys and values of the properties in an extension. -/
def properties (extension : Element) : List (String × String) :=
  (extension.findAll "property").map fun p => (childText p "key", childText p "value")

/-- The first value that the extension of an element gives a property. -/
def propertyValue? (e : Element) (key : String) : Option String :=
  (e.find "extensionElements").bind fun extension => (properties extension).lookup key

/-- The target type that the tag of a flow node stands for. -/
def inferTarget? (e : Element) : Option TargetType :=
  match e.localName with
  | "startEvent" => some .startEvent
  | "endEvent" =>
    some (if (e.find "errorEventDefinition").isSome then .errorEndEvent else .endEvent)
  | "exclusiveGateway" => some .router
  | "parallelGateway" => some .multicast
  | "serviceTask" => some .requestReply
  | "callActivity" => some .genericPassthrough
  | _ => none

/-! ### Elements -/

/-- A connector. -/
def sequenceFlow (id source target : String) (kind : EdgeKind) (condition : Option String) :
    Element where
  name := "bpmn2:sequenceFlow"
  attributes :=
    [("id", id)] ++ (condition.map fun c => ("name", c)).toList ++
      [("sourceRef", source), ("targetRef", target)]
  children :=
    [.element
      { name := "bpmn2:extensionElements"
        children := [.element (property "edgeKind" kind.name)] }] ++
      (condition.map fun c =>
        .element
          { name := "bpmn2:conditionExpression"
            attributes := [("xsi:type", "bpmn2:tFormalExpression")]
            children := [.text c] }).toList

/-- A box in a diagram. -/
def boundsElement (b : Bounds Float) : Element where
  name := "dc:Bounds"
  attributes :=
    [("height", Decimal.print b.height), ("width", Decimal.print b.width),
     ("x", Decimal.print b.x), ("y", Decimal.print b.y)]

/-- The shape of an element. -/
def shapeElement (id : String) (b : Bounds Float) : Element where
  name := "bpmndi:BPMNShape"
  attributes := [("bpmnElement", id), ("id", "BPMNShape_" ++ id)]
  children := [.element (boundsElement b)]

/-- A point of a line. -/
def waypoint (p : Point Float) : Element where
  name := "di:waypoint"
  attributes :=
    [("x", Decimal.print p.x), ("xsi:type", "dc:Point"), ("y", Decimal.print p.y)]

/-- The line of a connector. -/
def diagramEdge (id source target : String) (points : List (Point Float)) : Element where
  name := "bpmndi:BPMNEdge"
  attributes :=
    [("bpmnElement", id), ("id", "BPMNEdge_" ++ id),
     ("sourceElement", "BPMNShape_" ++ source), ("targetElement", "BPMNShape_" ++ target)]
  children := points.map fun p => .element (waypoint p)

end IntegrationFlow.Bpmn
