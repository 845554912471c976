import IntegrationFlow.Repair.Basic

/-!
# References between nodes and connectors

A connector joins two nodes of the process, each node lists the connectors that enter and leave it,
and the diagram draws nothing that is not there. The check drops connectors without nodes, then
brings the lists of the nodes and the diagram in line with the connectors that are left.
-/

namespace IntegrationFlow.Repair

open Xml (Element Content)
open Bpmn (Document isFlowNode isConnector)

/-! ### Connectors -/

/-- The ids of the flow nodes of a process. -/
def nodeIds (process : Element) : List String :=
  (process.elements.filter isFlowNode).filterMap fun e => e.attr "id"

/-- What is reported of a connector whose ends are not both among the nodes. -/
def danglingEnd? (nodes : List String) (e : Element) : Option Diagnostic :=
  let source := attrOrEmpty e "sourceRef"
  let target := attrOrEmpty e "targetRef"
  if isConnector e ∧ ¬(source ∈ nodes ∧ target ∈ nodes) then
    some <| repaired none <|
      "Dropped connector '" ++ attrOrEmpty e "id" ++ "' from '" ++ source ++ "' to '" ++ target ++
        "' because an endpoint does not exist"
  else none

/-- Drops the connectors that lack a node. -/
def dropConnectors (process : Element) : Element × Report :=
  removeElements (danglingEnd? (nodeIds process)) process

/-- The id, source and target of a connector that has them all. -/
def connectorEnds? (e : Element) : Option (String × String × String) := do
  return (← e.attr "id", ← e.attr "sourceRef", ← e.attr "targetRef")

/-- The connectors of a process with their ends. -/
def connectorsOf (process : Element) : List (String × String × String) :=
  (process.elements.filter isConnector).filterMap connectorEnds?

/-! ### Lists of connectors in nodes -/

/-- The way a connector passes a node. -/
inductive Direction where
  | incoming
  | outgoing
  deriving DecidableEq, Repr

/-- The name of the elements that list connectors. -/
def Direction.name : Direction → String
  | .incoming => "incoming"
  | .outgoing => "outgoing"

/-- The connectors that a node has to list. -/
def Direction.expected (d : Direction) (connectors : List (String × String × String))
    (node : String) : List String :=
  (connectors.filter fun (_, source, target) =>
    node == match d with
      | .incoming => target
      | .outgoing => source).map (·.1)

/-- Adds a connector to the list of a node. Incoming ones stand before outgoing ones, and those
before the event. -/
def addReference (namespacePart : Option String) (d : Direction) (connector : String)
    (node : Element) : Element :=
  node.insertBefore (.ofText (qualified namespacePart d.name) connector) fun e =>
    Text.finishesWith "EventDefinition" e.localName ||
      (d == .incoming && e.localName == Direction.outgoing.name)

/-- The connectors that a node lists. -/
def listed (d : Direction) (node : Element) : List String :=
  (node.findAll d.name).map Element.text

/-- The content without references that are not expected or come again. -/
def keepReferences (d : Direction) (expected : List String) :
    (seen : List String) → List (Content Element) → List (Content Element)
  | _, [] => []
  | seen, .text s :: cs => .text s :: keepReferences d expected seen cs
  | seen, .element e :: cs =>
    if e.localName ≠ d.name then .element e :: keepReferences d expected seen cs
    else if e.text ∈ expected ∧ e.text ∉ seen then
      .element e :: keepReferences d expected (e.text :: seen) cs
    else keepReferences d expected seen cs

/-- The references that are not expected or come again. -/
def staleReferences (expected : List String) : (seen references : List String) → List String
  | _, [] => []
  | seen, r :: rs =>
    if r ∈ expected ∧ r ∉ seen then staleReferences expected (r :: seen) rs
    else r :: staleReferences expected seen rs

/-- Brings one list of a node in line with the connectors. -/
def syncReferences (namespacePart : Option String) (d : Direction) (expected : List String)
    (node : Element) : Element × Report :=
  let id := some (attrOrEmpty node "id")
  let present := listed d node
  let missing := expected.filter (· ∉ present)
  let kept := { node with children := keepReferences d expected [] node.children }
  (missing.foldl (fun e connector => addReference namespacePart d connector e) kept,
    ((staleReferences expected [] present).map fun r =>
        repaired id ("Removed stale " ++ d.name ++ " ref '" ++ r ++ "'")) ++
      missing.map fun r => repaired id ("Added missing " ++ d.name ++ " ref '" ++ r ++ "'"))

/-- Brings both lists of every node in line with the connectors. -/
def syncNodes (process : Element) : Element × Report :=
  let connectors := connectorsOf process
  let sync (d : Direction) (node : Element) :=
    syncReferences process.namespacePart d (d.expected connectors (attrOrEmpty node "id")) node
  onFlowNodes (andThen (sync .incoming) (sync .outgoing)) process

/-! ### The diagram -/

mutual

/-- The ids of an element and of what it holds, diagrams apart. -/
def idsOutsideDiagram : Element → List String
  | ⟨name, attributes, children, _⟩ =>
    if Xml.localPart name == "BPMNDiagram" then []
    else (OrderedMap.get? attributes "id").toList ++ contentIds children

/-- The ids in a content, diagrams apart. -/
def contentIds : List (Content Element) → List String
  | [] => []
  | .text _ :: cs => contentIds cs
  | .element e :: cs => idsOutsideDiagram e ++ contentIds cs

end

/-- What is reported of a shape or line for something that is not there. -/
def orphanShape? (known : List String) (e : Element) : Option Diagnostic :=
  let target := attrOrEmpty e "bpmnElement"
  if e.localName ∈ ["BPMNShape", "BPMNEdge"] ∧ target ∉ known then
    some <| repaired none <|
      "Removed diagram element '" ++ attrOrEmpty e "id" ++ "' for missing element '" ++ target ++
        "'"
  else none

/-- Removes from the diagram what is not there. -/
def syncDiagram (d : Document) : Document × Report :=
  onPlane (removeElements (orphanShape? (idsOutsideDiagram d.root))) d

/-! ### The check -/

/-- Brings connectors, nodes and diagram in line. -/
def danglingConnectors : Check where
  name := "dangling-connector"
  apply d :=
    if d.process?.isNone then (d, [])
    else andThen (onProcess (andThen dropConnectors syncNodes)) syncDiagram d

end IntegrationFlow.Repair
