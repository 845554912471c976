import IntegrationFlow.Json.Decode
import IntegrationFlow.Json.Printer
import IntegrationFlow.Json.Reader
import IntegrationFlow.Target

/-!
# Mapping tables

A table gives the target type of source types. A key is a source type, or a source type and a
variant with a colon between them; the longer key is looked up first.
-/

namespace IntegrationFlow.Classification

/-- A table with the version it is known by. -/
structure MappingTable where
  version : String
  entries : OrderedMap String TargetType := []

namespace MappingTable

/-- Adds an entry, or replaces the one with its key. -/
def withEntry (t : MappingTable) (source : String) (target : TargetType) : MappingTable :=
  { t with entries := OrderedMap.insert t.entries source target }

/-- The target of a key. -/
def get? (t : MappingTable) (key : String) : Option TargetType := OrderedMap.get? t.entries key

/-- The target of a source type and a variant of it, with the key that was found. -/
def lookup (t : MappingTable) (sourceType : String) (variant : Option String) :
    Option (TargetType × String) :=
  let specific :=
    match variant with
    | some v =>
      let key := sourceType ++ ":" ++ v
      (t.get? key).map fun target => (target, key)
    | none => none
  match specific with
  | some found => some found
  | none => (t.get? sourceType).map fun target => (target, sourceType)

/-! ### As JSON -/

/-- Why a text is not a table. -/
inductive Error where
  | malformed
  | duplicateEntry (source : String)
  | unknownTarget (source target : String)
  deriving DecidableEq, Repr

/-- The wording of an error; a text that is not even of the right form has none of its own. -/
def Error.message : Error → String
  | .malformed => "Failed to parse mapping table JSON"
  | .duplicateEntry source => "Mapping table lists source type '" ++ source ++ "' more than once"
  | .unknownTarget source target =>
    "Mapping table maps '" ++ source ++ "' to unknown target type '" ++ target ++ "'"

/-- An entry: a source type and the name of its target. -/
def entryOfJson? (j : Json) : Option (String × String) :=
  match j.fields? ["source", "target"] false with
  | some [source, target] => do
    return ((← Json.required? Json.asString? source), (← Json.required? Json.asString? target))
  | _ => none

/-- Adds an entry with a named target, which must be known, for a source type that is new. -/
def addNamed (t : MappingTable) (source target : String) : Except Error MappingTable :=
  match TargetType.ofName? target with
  | none => .error (.unknownTarget source target)
  | some type =>
    if OrderedMap.contains t.entries source then .error (.duplicateEntry source)
    else .ok (t.withEntry source type)

/-- The table that a JSON text holds. -/
def parse (s : String) : Except Error MappingTable :=
  let read : Option (String × List (String × String)) := do
    match (← Json.parse? s).fields? ["version", "entries"] false with
    | some [version, entries] =>
      return ((← Json.required? Json.asString? version),
        (← Json.required? (Json.asListOf? entryOfJson?) entries))
    | _ => none
  match read with
  | none => .error .malformed
  | some (version, entries) =>
    entries.foldlM (fun t (source, target) => t.addNamed source target) { version }

/-- The table as a JSON value. -/
def toJson (t : MappingTable) : Json :=
  .ofMembers
    [("version", .ofString t.version),
     ("entries", .array <| t.entries.map fun (source, target) =>
        .ofMembers [("source", .ofString source), ("target", .ofString target.name)])]

/-- The table as a JSON text with a line for each part. -/
def print (t : MappingTable) : String := t.toJson.pretty

/-! ### The standard table -/

/-- The entries of the standard table. -/
def standardEntries : OrderedMap String TargetType :=
  [("http:listener", .startEvent),
   ("scheduler", .startEvent),
   ("end", .endEvent),
   ("on-error-propagate", .errorEndEvent),
   ("raise-error", .errorEndEvent),
   ("http:request", .requestReply),
   ("wsc:consume", .requestReply),
   ("salesforce:query", .requestReply),
   ("salesforce:create", .send),
   ("jms:publish", .send),
   ("jms:consume", .requestReply),
   ("vm:publish", .send),
   ("email:send", .send),
   ("file:write", .send),
   ("file:read", .requestReply),
   ("sftp:write", .send),
   ("sftp:read", .requestReply),
   ("set-payload", .contentModifier),
   ("set-variable", .contentModifier),
   ("remove-variable", .contentModifier),
   ("ee:transform", .messageMapping),
   ("scripting:execute", .script),
   ("logger", .logger),
   ("choice", .router),
   ("scatter-gather", .multicast),
   ("scatter-gather:aggregate", .gather),
   ("foreach", .splitter),
   ("parallel-foreach", .splitter),
   ("until-successful", .loopingProcessCall),
   ("flow-ref", .processCall),
   ("db:select", .dataStore),
   ("db:insert", .dataStore),
   ("db:update", .dataStore),
   ("db:delete", .dataStore),
   ("db:stored-procedure", .dataStore),
   ("os:store", .dataStore),
   ("os:retrieve", .dataStore),
   ("validation:is-true", .filter),
   ("json:validate-schema", .filter),
   ("compression:compress", .encoder),
   ("crypto:jce-encrypt", .encoder),
   ("start", .startEvent),
   ("stop", .endEvent),
   ("returndocuments", .endEvent),
   ("exception", .errorEndEvent),
   ("connectoraction", .requestReply),
   ("connectoraction:http", .requestReply),
   ("connectoraction:wss", .requestReply),
   ("connectoraction:database", .dataStore),
   ("connectoraction:disk", .send),
   ("connectoraction:ftp", .send),
   ("connectoraction:sftp", .send),
   ("connectoraction:mail", .send),
   ("connectoraction:jms", .send),
   ("map", .messageMapping),
   ("decision", .router),
   ("route", .router),
   ("branch", .multicast),
   ("message", .contentModifier),
   ("documentproperties", .contentModifier),
   ("dataprocess", .script),
   ("processcall", .processCall),
   ("processroute", .processCall),
   ("notify", .logger),
   ("trycatch", .filter),
   ("flowcontrol", .splitter),
   ("cleanse", .filter),
   ("businessrules", .filter),
   ("addtocache", .dataStore),
   ("retrievefromcache", .dataStore),
   ("FLOW", .startEvent),
   ("FLOW:end", .endEvent),
   ("EXIT:FAILURE", .errorEndEvent),
   ("INVOKE", .processCall),
   ("INVOKE:pub.client:http", .requestReply),
   ("INVOKE:pub.client:soapClient", .requestReply),
   ("INVOKE:pub.client:ftp", .send),
   ("INVOKE:pub.client:smtp", .send),
   ("INVOKE:pub.jms:send", .send),
   ("INVOKE:pub.jms:sendAndWait", .requestReply),
   ("INVOKE:pub.flow:debugLog", .logger),
   ("INVOKE:pub.flow:tracePipeline", .logger),
   ("INVOKE:pub.flow:setResponse", .contentModifier),
   ("INVOKE:pub.json:documentToJSONString", .converter),
   ("INVOKE:pub.json:jsonStringToDocument", .converter),
   ("INVOKE:pub.xml:documentToXMLString", .converter),
   ("INVOKE:pub.xml:xmlStringToXMLNode", .converter),
   ("INVOKE:pub.xml:xmlNodeToDocument", .converter),
   ("INVOKE:pub.string:base64Encode", .encoder),
   ("INVOKE:pub.string:base64Decode", .encoder),
   ("INVOKE:pub.schema:validate", .filter),
   ("INVOKE:pub.storage:put", .dataStore),
   ("INVOKE:pub.storage:get", .dataStore),
   ("INVOKE:pub.db:execSQL", .dataStore),
   ("MAP", .messageMapping),
   ("BRANCH", .router),
   ("LOOP", .splitter),
   ("REPEAT", .loopingProcessCall)]

/-- The table that is used unless another one is given. -/
def standard : MappingTable := { version := "2024.2", entries := standardEntries }

end MappingTable

end IntegrationFlow.Classification
