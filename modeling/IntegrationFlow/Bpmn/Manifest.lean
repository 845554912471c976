import IntegrationFlow.Json.Decode
import IntegrationFlow.Json.Printer
import IntegrationFlow.Bpmn.Document

/-!
# Manifests

What is known about a document as a whole: which flow it is, and how many components of each type
it has.
-/

namespace IntegrationFlow.Bpmn

open Xml (Element)

/-- What is said about a flow. -/
structure FlowMeta where
  flowId : String := "flow"
  flowName : String := "Integration Flow"
  flowVersion : String := "1.0.0"
  /-- The version of the table that classified its components. -/
  tableVersion : String := "unversioned"
  deriving DecidableEq, Repr

/-- A manifest. -/
structure Manifest extends FlowMeta where
  nodeCount : Nat
  edgeCount : Nat
  /-- How many components there are of each type, in the order in which the types are met. -/
  componentTypes : OrderedMap TargetType Nat
  deriving DecidableEq, Repr

/-- The type of a flow node: the one it states, else the one its tag stands for. -/
def statedTarget (e : Element) : TargetType :=
  (((propertyValue? e "componentType").bind TargetType.ofName?).or (inferTarget? e)).getD
    .genericPassthrough

/-- The manifest with the counts of a document. -/
def Manifest.recount (m : Manifest) (d : Document) : Manifest where
  toFlowMeta := m.toFlowMeta
  nodeCount := d.flowNodes.length
  edgeCount := d.connectors.length
  componentTypes := d.flowNodes.foldl (fun h e => OrderedMap.tally h (statedTarget e)) []

/-! ### As JSON -/

/-- The members of what is said about a flow. -/
def FlowMeta.members (m : FlowMeta) : List (String × Json) :=
  [("flow_id", .ofString m.flowId), ("flow_name", .ofString m.flowName),
   ("flow_version", .ofString m.flowVersion), ("table_version", .ofString m.tableVersion)]

/-- What is said about a flow as JSON. -/
def FlowMeta.toJson (m : FlowMeta) : Json := .ofMembers m.members

/-- What JSON says about a flow. -/
def FlowMeta.ofJson? (j : Json) : Option FlowMeta :=
  match j.fields? ["flow_id", "flow_name", "flow_version", "table_version"] false with
  | some [flowId, flowName, flowVersion, tableVersion] => do
    return {
      flowId := ← Json.required? Json.asString? flowId
      flowName := ← Json.required? Json.asString? flowName
      flowVersion := ← Json.required? Json.asString? flowVersion
      tableVersion := ← Json.required? Json.asString? tableVersion }
  | _ => none

/-- A manifest as JSON. -/
def Manifest.toJson (m : Manifest) : Json :=
  .ofMembers <| m.toFlowMeta.members ++
    [("node_count", .ofNat m.nodeCount), ("edge_count", .ofNat m.edgeCount),
     ("component_types", .ofMembers (m.componentTypes.map fun (t, n) => (t.name, .ofNat n)))]

/-- A manifest as a JSON text with a line for each part. -/
def Manifest.print (m : Manifest) : String := m.toJson.pretty

/-- The manifest that JSON holds. -/
def Manifest.ofJson? (j : Json) : Option Manifest :=
  match j.fields?
      ["flow_id", "flow_name", "flow_version", "table_version", "node_count", "edge_count",
       "component_types"] false with
  | some [flowId, flowName, flowVersion, tableVersion, nodeCount, edgeCount, types] => do
    return {
      flowId := ← Json.required? Json.asString? flowId
      flowName := ← Json.required? Json.asString? flowName
      flowVersion := ← Json.required? Json.asString? flowVersion
      tableVersion := ← Json.required? Json.asString? tableVersion
      nodeCount := ← Json.required? Json.asNat? nodeCount
      edgeCount := ← Json.required? Json.asNat? edgeCount
      componentTypes := ← Json.required? (Json.asMapOf? TargetType.ofAnyName? Json.asNat?) types }
  | _ => none

end IntegrationFlow.Bpmn
