import IntegrationFlow.Classification.Keyword
import IntegrationFlow.Graph.Basic

/-!
# Properties

The properties of a classified component: those that its type asks for, found in the settings
under any of their usual names, then its source type, then all of its settings.
-/

namespace IntegrationFlow.Classification

/-- A property and the names it goes by in settings, the best first. -/
structure Alias where
  property : String
  names : List String

/-- Where a component sends to or listens. -/
def addressAlias : Alias :=
  ⟨"address", ["url", "address", "endpoint", "uri", "path", "host", "queue", "destination"]⟩

/-- The properties that a type asks for. -/
def aliases : TargetType → List Alias
  | .requestReply =>
    [addressAlias, ⟨"httpMethod", ["method", "httpmethod", "verb", "actiontype"]⟩]
  | .send => [addressAlias]
  | .script => [⟨"script", ["script", "code", "text", "scriptfile"]⟩]
  | .messageMapping =>
    [⟨"mappingPath", ["resource", "mappingfile", "mapping", "mapid", "map"]⟩]
  | .converter => [⟨"format", ["format", "mimetype", "outputtype"]⟩]
  | .contentModifier =>
    [⟨"name", ["variablename", "propertyname", "name", "field"]⟩,
     ⟨"value", ["value", "payload", "body"]⟩]
  | .logger =>
    [⟨"message", ["message", "logmessage", "text"]⟩,
     ⟨"level", ["level", "loglevel", "severity"]⟩]
  | .dataStore => [⟨"query", ["sql", "query", "statement", "key"]⟩]
  | .processCall =>
    [⟨"processId", ["flowname", "processid", "subprocess", "service", "name"]⟩]
  | .loopingProcessCall =>
    [⟨"processId", ["flowname", "processid", "service"]⟩,
     ⟨"maxNumberOfIterations", ["maxretries", "maxiterations", "count", "maxcount"]⟩]
  | .splitter =>
    [⟨"expression", ["collection", "inarray", "expression", "splitexpression"]⟩]
  | .filter => [⟨"xpath", ["expression", "filter", "condition", "schema"]⟩]
  | .encoder => [⟨"encoding", ["encoding", "algorithm", "format"]⟩]
  | .gather => [⟨"strategy", ["strategy", "aggregation"]⟩]
  | _ => []

/-- The last part of a dotted key, without the index of a repeated element. -/
def leafOf (key : String) : String := Text.beforeFirst '[' (Text.afterLast '.' key)

/-- Whether a setting has a value and goes by a name. -/
def goesBy (name : String) (entry : String × Setting) : Bool :=
  !entry.2.isBlank && foldKey (leafOf entry.1) == name

/-- The value that settings give under a name; a key without dots is preferred. -/
def valueUnder? (settings : Settings) (name : String) : Option Setting :=
  let found := settings.filter (goesBy name)
  ((found.find? fun entry => !entry.1.toList.contains '.').or found.head?).map (·.2)

/-- The value that settings give under the first of several names that they use. -/
def resolve? (settings : Settings) (names : List String) : Option Setting :=
  names.findSome? (valueUnder? settings)

/-- The properties of a component of a type. -/
def normalize (node : Node) (target : TargetType) : Settings :=
  let asked := (aliases target).filterMap fun a =>
    (resolve? node.settings a.names).map fun value => (a.property, value)
  let known := OrderedMap.ofList <|
    asked ++ [("sourceType", .literal node.sourceType)] ++
      (match node.variant with
        | some v => [("sourceVariant", .literal v)]
        | none => [])
  node.settings.foldl (fun m e => OrderedMap.insertNew m e.1 e.2) known

end IntegrationFlow.Classification
