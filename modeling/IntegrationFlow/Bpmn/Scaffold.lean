import IntegrationFlow.Bpmn.Manifest

/-!
# The frame of a document

What every document has around its nodes and connectors: the namespaces, the participants, and the
pools that are drawn for them.
-/

namespace IntegrationFlow.Bpmn

open Xml (Element)
open Layout (Bounds)

/-! ### Elements of the frame -/

/-- The namespaces of a document. -/
def namespaces : List (String × String) :=
  [("xmlns:bpmn2", "http://www.omg.org/spec/BPMN/20100524/MODEL"),
   ("xmlns:bpmndi", "http://www.omg.org/spec/BPMN/20100524/DI"),
   ("xmlns:dc", "http://www.omg.org/spec/DD/20100524/DC"),
   ("xmlns:di", "http://www.omg.org/spec/DD/20100524/DI"),
   ("xmlns:ifl", "http:///com.sap.ifl.model/Ifl.xsd"),
   ("xmlns:xsi", "http://www.w3.org/2001/XMLSchema-instance")]

/-- An extension with properties. -/
def extensionElement (entries : List (String × String)) : Element where
  name := "bpmn2:extensionElements"
  children := entries.map fun (key, value) => .element (property key value)

/-- A participant; the one that runs the process refers to it. -/
def participant (id kind name : String) (process : Option String := none) : Element where
  name := "bpmn2:participant"
  attributes :=
    [("id", id), ("ifl:type", kind), ("name", name)] ++
      (process.map fun p => ("processRef", p)).toList

/-- The collaboration of the participants. -/
def collaboration (m : FlowMeta) : Element where
  name := "bpmn2:collaboration"
  attributes := [("id", "Collaboration_1"), ("name", "Default Collaboration")]
  children :=
    [.element (extensionElement
      [("flowId", m.flowId), ("flowName", m.flowName), ("flowVersion", m.flowVersion),
       ("mappingTableVersion", m.tableVersion)]),
     .element (participant "Participant_Sender" "EndpointSender" "Sender"),
     .element (participant "Participant_Receiver" "EndpointRecevier" "Receiver"),
     .element (participant "Participant_Process" "IntegrationProcess" "Integration Process"
      (some "Process_1"))]

/-- The process with its content. -/
def processElement (content : List Element) : Element where
  name := "bpmn2:process"
  attributes := [("id", "Process_1"), ("name", "Integration Process")]
  children :=
    (extensionElement [("transactionHandling", "None"), ("transactionTimeout", "30")] ::
      content).map .element

/-! ### Pools -/

/-- The pool of the process, around everything that is drawn. -/
def processPool (content : Bounds Float) : Bounds Float :=
  ⟨content.x - 40, content.y - 40, content.width + 80, content.height + 80⟩

/-- The pool of the sender, to the left of the process. -/
def senderPool (pool : Bounds Float) : Bounds Float :=
  ⟨pool.x - 40 - 100, pool.y + (pool.height - 140) / 2, 100, 140⟩

/-- The pool of the receiver, to the right of the process. -/
def receiverPool (pool : Bounds Float) : Bounds Float :=
  { senderPool pool with x := pool.x + pool.width + 40 }

/-- The diagram with its content, around which the pools are drawn. -/
def diagramElement (extent : Option (Bounds Float)) (content : List Element) : Element where
  name := "bpmndi:BPMNDiagram"
  attributes := [("id", "BPMNDiagram_1"), ("name", "Default Collaboration Diagram")]
  children :=
    let pool := processPool (extent.getD ⟨0, 0, 0, 0⟩)
    [.element
      { name := "bpmndi:BPMNPlane"
        attributes := [("bpmnElement", "Collaboration_1"), ("id", "BPMNPlane_1")]
        children :=
          ([shapeElement "Participant_Process" pool,
            shapeElement "Participant_Sender" (senderPool pool),
            shapeElement "Participant_Receiver" (receiverPool pool)] ++ content).map .element }]

/-- A document with the content of its process and of its diagram. -/
def Document.ofContent (m : FlowMeta) (extent : Option (Bounds Float))
    (process plane : List Element) : Document where
  root :=
    { name := "bpmn2:definitions"
      attributes := namespaces ++ [("id", "Definitions_1")]
      children :=
        [.element (collaboration m), .element (processElement process),
         .element (diagramElement extent plane)] }

end IntegrationFlow.Bpmn
