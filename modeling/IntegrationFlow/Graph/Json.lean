import IntegrationFlow.Graph.Basic
import IntegrationFlow.Record.Json

/-!
# Flow graphs as JSON
-/

namespace IntegrationFlow

/-! ### Edges -/

/-- An edge as JSON. -/
def Edge.toJson (e : Edge) : Json :=
  .ofMembers
    [("id", .ofString e.id), ("source_node", .ofString e.source),
     ("target_node", .ofString e.target), ("kind", .ofString e.kind.name),
     ("condition", .ofString? e.condition)]

/-- The edge that JSON holds. -/
def Edge.ofJson? (j : Json) : Option Edge :=
  match j.fields? ["id", "source_node", "target_node", "kind", "condition"] false with
  | some [id, source, target, kind, condition] => do
    return {
      id := ← Json.required? Json.asString? id
      source := ← Json.required? Json.asString? source
      target := ← Json.required? Json.asString? target
      kind := ← (Json.required? Json.asName? kind).bind EdgeKind.ofName?
      condition := ← Json.asOptionalString? condition }
  | _ => none

/-! ### Nodes -/

/-- The source of a node as JSON. -/
def RecordSource.toJson (s : RecordSource) : Json :=
  .ofMembers [("document", .ofString s.document), ("record_id", .ofString s.recordId)]

/-- The source of a node that JSON holds. -/
def RecordSource.ofJson? (j : Json) : Option RecordSource :=
  match j.fields? ["document", "record_id"] false with
  | some [document, recordId] => do
    return ⟨← Json.required? Json.asString? document, ← Json.required? Json.asString? recordId⟩
  | _ => none

/-- The type that JSON names. -/
def TargetType.ofJson? (j : Json) : Option TargetType := j.asName?.bind TargetType.ofAnyName?

/-- A node as JSON. -/
def Node.toJson (n : Node) : Json :=
  .ofMembers
    [("node_id", .ofString n.id), ("name", .ofString n.name),
     ("source_type", .ofString n.sourceType), ("variant", .ofString? n.variant),
     ("role", .ofString n.role.name), ("dialect", .ofString? (n.dialect.map Dialect.name)),
     ("target_type", .ofString n.target.name), ("incoming", .array (n.incoming.map .ofString)),
     ("outgoing", .array (n.outgoing.map .ofString)), ("config", Settings.toJson n.settings),
     ("properties", Settings.toJson n.properties),
     ("sources", .array (n.sources.map RecordSource.toJson))]

/-- The node that JSON holds. -/
def Node.ofJson? (j : Json) : Option Node :=
  match j.fields?
      ["node_id", "name", "source_type", "variant", "role", "dialect", "target_type", "incoming",
       "outgoing", "config", "properties", "sources"] false with
  | some
      [id, name, sourceType, variant, role, dialect, target, incoming, outgoing, config,
       properties, sources] => do
    return {
      id := ← Json.required? Json.asString? id
      name := ← Json.required? Json.asString? name
      sourceType := ← Json.required? Json.asString? sourceType
      variant := ← Json.asOptionalString? variant
      role := ← (Json.required? Json.asName? role).bind Role.ofName?
      dialect := ← Dialect.ofOptionalJson? dialect
      target := ← Json.required? TargetType.ofJson? target
      incoming := ← Json.required? (Json.asListOf? Json.asString?) incoming
      outgoing := ← Json.required? (Json.asListOf? Json.asString?) outgoing
      settings := ← Json.required? Settings.ofJson? config
      properties := ← Json.required? Settings.ofJson? properties
      sources := ← Json.required? (Json.asListOf? RecordSource.ofJson?) sources }
  | _ => none

/-! ### Graphs -/

/-- A graph as JSON. -/
def FlowGraph.toJson (g : FlowGraph) : Json :=
  .ofMembers
    [("nodes", .ofMembers (g.nodes.map fun (id, n) => (id, n.toJson))),
     ("edges", .ofMembers (g.edges.map fun (id, e) => (id, e.toJson)))]

/-- The graph that JSON holds. -/
def FlowGraph.ofJson? (j : Json) : Option FlowGraph :=
  match j.fields? ["nodes", "edges"] false with
  | some [nodes, edges] => do
    return {
      nodes := ← Json.required? (Json.asMapOf? some Node.ofJson?) nodes
      edges := ← Json.required? (Json.asMapOf? some Edge.ofJson?) edges }
  | _ => none

end IntegrationFlow
