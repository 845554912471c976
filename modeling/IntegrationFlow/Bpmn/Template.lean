import IntegrationFlow.Target

/-!
# Templates

How a component of each type appears in a process document: the tag of its element, the activity
that runs it, the event it stands for and the properties it cannot do without.
-/

namespace IntegrationFlow.Bpmn

/-- The appearance of a type. -/
structure Template where
  target : TargetType
  /-- The local name of the element. -/
  tag : String
  activityType : String
  eventDefinition : Option String := none
  /-- Properties that must have a value, with the value they have unless another is given. -/
  mandatory : List (String × String) := []
  deriving DecidableEq, Repr

/-- The standard template of a type. Every type has one, unresolved apart. -/
def standardTemplate? : TargetType → Option Template
  | .startEvent =>
    some ⟨.startEvent, "startEvent", "StartEvent", some "messageEventDefinition", []⟩
  | .endEvent => some ⟨.endEvent, "endEvent", "EndEvent", some "messageEventDefinition", []⟩
  | .errorEndEvent =>
    some ⟨.errorEndEvent, "endEvent", "ErrorEndEvent", some "errorEventDefinition", []⟩
  | .requestReply =>
    some ⟨.requestReply, "serviceTask", "ExternalCall", none,
      [("address", "/"), ("httpMethod", "POST")]⟩
  | .send => some ⟨.send, "serviceTask", "Send", none, [("address", "/")]⟩
  | .router => some ⟨.router, "exclusiveGateway", "ExclusiveGateway", none, []⟩
  | .multicast =>
    some ⟨.multicast, "parallelGateway", "Multicast", none, [("parallelProcessing", "true")]⟩
  | .join => some ⟨.join, "parallelGateway", "Join", none, []⟩
  | .contentModifier => some ⟨.contentModifier, "callActivity", "Enricher", none, []⟩
  | .script => some ⟨.script, "callActivity", "Script", none, [("scriptFunction", "processData")]⟩
  | .messageMapping =>
    some ⟨.messageMapping, "callActivity", "Mapping", none,
      [("mappingPath", "mapping/default.mmap")]⟩
  | .converter => some ⟨.converter, "callActivity", "Converter", none, [("format", "xml")]⟩
  | .splitter => some ⟨.splitter, "callActivity", "Splitter", none, [("expression", "/*")]⟩
  | .gather => some ⟨.gather, "callActivity", "Gather", none, [("strategy", "combine")]⟩
  | .filter => some ⟨.filter, "callActivity", "Filter", none, [("xpath", "/*")]⟩
  | .processCall =>
    some ⟨.processCall, "callActivity", "ProcessCallElement", none,
      [("processId", "Local Integration Process")]⟩
  | .loopingProcessCall =>
    some ⟨.loopingProcessCall, "callActivity", "LoopingProcessCall", none,
      [("processId", "Local Integration Process"), ("maxNumberOfIterations", "999")]⟩
  | .dataStore => some ⟨.dataStore, "callActivity", "DBstorage", none, [("operation", "put")]⟩
  | .encoder => some ⟨.encoder, "callActivity", "Encoder", none, [("encoding", "base64")]⟩
  | .logger => some ⟨.logger, "callActivity", "Logger", none, [("level", "INFO")]⟩
  | .genericPassthrough => some ⟨.genericPassthrough, "callActivity", "Passthrough", none, []⟩
  | .unresolved => none

/-- The templates in use: the standard ones, but for the types that others are given for. The last
one given for a type counts. -/
def template? (custom : List Template) (target : TargetType) : Option Template :=
  match custom.reverse.find? fun t => t.target == target with
  | some t => some t
  | none => standardTemplate? target

end IntegrationFlow.Bpmn
