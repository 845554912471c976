/-!
# Target types

The kinds of component that a process document knows, and the shapes they are drawn with.
-/

namespace IntegrationFlow

/-- The kind of a component. -/
inductive TargetType where
  | startEvent
  | endEvent
  | errorEndEvent
  | requestReply
  | send
  | contentModifier
  | script
  | messageMapping
  | converter
  | router
  | multicast
  | join
  | splitter
  | gather
  | filter
  | processCall
  | loopingProcessCall
  | dataStore
  | encoder
  | logger
  | genericPassthrough
  /-- Not classified yet. -/
  | unresolved
  deriving DecidableEq, Repr

/-- The family of shapes that a component is drawn with. -/
inductive Shape where
  | event
  | gateway
  | activity
  deriving DecidableEq, Repr

/-- The width and height of a shape. -/
def Shape.size : Shape → Nat × Nat
  | .event => (36, 36)
  | .gateway => (50, 50)
  | .activity => (100, 60)

namespace TargetType

/-- Every type that a component can be classified as. -/
def all : List TargetType :=
  [.startEvent, .endEvent, .errorEndEvent, .requestReply, .send, .contentModifier, .script,
   .messageMapping, .converter, .router, .multicast, .join, .splitter, .gather, .filter,
   .processCall, .loopingProcessCall, .dataStore, .encoder, .logger, .genericPassthrough]

/-- The name of a type. -/
def name : TargetType → String
  | .startEvent => "start_event"
  | .endEvent => "end_event"
  | .errorEndEvent => "error_end_event"
  | .requestReply => "request_reply"
  | .send => "send"
  | .contentModifier => "content_modifier"
  | .script => "script"
  | .messageMapping => "message_mapping"
  | .converter => "converter"
  | .router => "router"
  | .multicast => "multicast"
  | .join => "join"
  | .splitter => "splitter"
  | .gather => "gather"
  | .filter => "filter"
  | .processCall => "process_call"
  | .loopingProcessCall => "looping_process_call"
  | .dataStore => "data_store"
  | .encoder => "encoder"
  | .logger => "logger"
  | .genericPassthrough => "generic_passthrough"
  | .unresolved => "unresolved"

/-- The type with a name, among those that a component can be classified as. -/
def ofName? (s : String) : Option TargetType := all.find? fun t => t.name == s

/-- What is said about a name that no type has. -/
def unknownMessage (s : String) : String := "unknown target type '" ++ s ++ "'"

/-- The type with a name, the one of components that are not classified included. -/
def ofAnyName? (s : String) : Option TargetType :=
  if s == unresolved.name then some unresolved else ofName? s

/-- The shape of a type. -/
def shape : TargetType → Shape
  | .startEvent | .endEvent | .errorEndEvent => .event
  | .router | .multicast | .join => .gateway
  | _ => .activity

/-- Whether a component has been classified. -/
def isResolved (t : TargetType) : Bool := t != .unresolved

end TargetType

end IntegrationFlow
