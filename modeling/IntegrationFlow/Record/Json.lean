import IntegrationFlow.Json.Decode
import IntegrationFlow.Json.Printer
import IntegrationFlow.Record

/-!
# Records as JSON
-/

namespace IntegrationFlow

/-! ### Settings -/

/-- A value as JSON: its kind and its text. -/
def Setting.toJson : Setting → Json
  | .literal value => .ofMembers [("kind", .ofString "literal"), ("value", .ofString value)]
  | .reference path => .ofMembers [("kind", .ofString "reference"), ("value", .ofString path)]

/-- The value that JSON holds. -/
def Setting.ofJson? (j : Json) : Option Setting :=
  match j.fields? ["kind", "value"] false with
  | some [kind, value] => do
    let text ← Json.required? Json.asString? value
    match (← Json.required? Json.asName? kind) with
    | "literal" => some (.literal text)
    | "reference" => some (.reference text)
    | _ => none
  | _ => none

/-- Settings as JSON. -/
def Settings.toJson (s : Settings) : Json :=
  .ofMembers (s.map fun (key, value) => (key, value.toJson))

/-- The settings that JSON holds. -/
def Settings.ofJson? : Json → Option Settings := Json.asMapOf? some Setting.ofJson?

/-! ### Links and records -/

/-- A link as JSON. -/
def Link.toJson (l : Link) : Json :=
  .ofMembers
    [("target", .ofString l.target), ("kind", .ofString l.kind.name),
     ("condition", .ofString? l.condition)]

/-- The link that JSON holds. -/
def Link.ofJson? (j : Json) : Option Link :=
  match j.fields? ["target", "kind", "condition"] false with
  | some [target, kind, condition] => do
    return {
      target := ← Json.required? Json.asString? target
      kind := ← (Json.required? Json.asName? kind).bind EdgeKind.ofName?
      condition := ← Json.asOptionalString? condition }
  | _ => none

/-- A dialect that may be missing or null. -/
def Dialect.ofOptionalJson? : Option Json → Option (Option Dialect)
  | none | some .null => some none
  | some j => (j.asName?.bind Dialect.ofName?).map some

/-- A record as JSON. -/
def Record.toJson (r : Record) : Json :=
  .ofMembers
    [("id", .ofString r.id), ("name", .ofString r.name), ("source_type", .ofString r.sourceType),
     ("variant", .ofString? r.variant), ("config", Settings.toJson r.settings),
     ("raw_content", .ofString r.rawContent), ("document", .ofString r.document),
     ("dialect", .ofString? (r.dialect.map Dialect.name)), ("role", .ofString r.role.name),
     ("origin", .ofString r.origin.name), ("merge_key", .ofString? r.mergeKey),
     ("links", .array (r.links.map Link.toJson))]

/-- The record that JSON holds. -/
def Record.ofJson? (j : Json) : Option Record :=
  match j.fields?
      ["id", "name", "source_type", "variant", "config", "raw_content", "document", "dialect",
       "role", "origin", "merge_key", "links"] false with
  | some
      [id, name, sourceType, variant, config, rawContent, document, dialect, role, origin,
       mergeKey, links] => do
    return {
      id := ← Json.required? Json.asString? id
      name := ← Json.required? Json.asString? name
      sourceType := ← Json.required? Json.asString? sourceType
      variant := ← Json.asOptionalString? variant
      settings := ← Json.required? Settings.ofJson? config
      rawContent := ← Json.required? Json.asString? rawContent
      document := ← Json.required? Json.asString? document
      dialect := ← Dialect.ofOptionalJson? dialect
      role := ← (Json.required? Json.asName? role).bind Role.ofName?
      origin := ← (Json.required? Json.asName? origin).bind Origin.ofName?
      mergeKey := ← Json.asOptionalString? mergeKey
      links := ← Json.required? (Json.asListOf? Link.ofJson?) links }
  | _ => none

end IntegrationFlow
