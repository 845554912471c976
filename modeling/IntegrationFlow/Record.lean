import IntegrationFlow.OrderedMap
import IntegrationFlow.Text.Basic

/-!
# Component records

What a source document says about one component: its type and settings, its role in the flow and
its links to other components.
-/

namespace IntegrationFlow

/-! ### Settings -/

/-- A configuration value: a literal text, or a slash-separated path into the message. -/
inductive Setting where
  | literal (value : String)
  | reference (path : String)
  deriving DecidableEq, Repr

namespace Setting

/-- The literal text or the path. -/
def raw : Setting → String
  | literal value => value
  | reference path => path

/-- Whether the value is a path. -/
def isReference : Setting → Bool
  | literal _ => false
  | reference _ => true

/-- Whether there is nothing but white space in the value. -/
def isBlank (s : Setting) : Bool := Text.isBlank s.raw

/-- The value as it is written in a process document. -/
def expression : Setting → String
  | literal value => value
  | reference path => "$\x7b" ++ path ++ "\x7d"

/-- The value as it is shown to readers. -/
def describe : Setting → String
  | literal value => value
  | reference path => "\x7b" ++ path ++ "\x7d"

end Setting

/-- Settings by dotted key, in source order. -/
abbrev Settings := OrderedMap String Setting

/-! ### Dialects -/

/-- The platforms whose documents can be read. -/
inductive Dialect where
  | mule
  | boomi
  | webMethods
  deriving DecidableEq, Repr

namespace Dialect

/-- The name of a dialect. -/
def name : Dialect → String
  | mule => "mule"
  | boomi => "boomi"
  | webMethods => "webmethods"

/-- The dialect with exactly this name. -/
def ofName? : String → Option Dialect
  | "mule" => some mule
  | "boomi" => some boomi
  | "webmethods" => some webMethods
  | _ => none

/-- The dialect meant by a text in any case, with white space around it. Two of them have a second
name. The error is the name looked for. -/
def parse (s : String) : Except String Dialect :=
  match Text.lower (Text.trim s) with
  | "mule" | "mulesoft" => .ok mule
  | "boomi" | "dell-boomi" => .ok boomi
  | "webmethods" | "wm" => .ok webMethods
  | other => .error other

/-- What is said about a name that no dialect has. -/
def unknownMessage (other : String) : String :=
  "unknown dialect '" ++ other ++ "'; supported dialects are mule, boomi, webmethods"

/-- Whether flows of a dialect must not run in circles. -/
def requiresAcyclic : Dialect → Bool
  | mule | boomi => true
  | webMethods => false

end Dialect

/-! ### Links -/

/-- What a link stands for: the next step, a call into another flow, or an error handler. -/
inductive EdgeKind where
  | sequence
  | reference
  | error
  deriving DecidableEq, Repr

namespace EdgeKind

/-- The name of a kind. -/
def name : EdgeKind → String
  | sequence => "sequence"
  | reference => "reference"
  | error => "error"

/-- The kind with a name. -/
def ofName? : String → Option EdgeKind
  | "sequence" => some sequence
  | "reference" => some reference
  | "error" => some error
  | _ => none

end EdgeKind

/-- A link to another record, named by its id or its merge key. -/
structure Link where
  target : String
  kind : EdgeKind := .sequence
  condition : Option String := none
  deriving DecidableEq, Repr

/-! ### Records -/

/-- The place of a component in its flow. -/
inductive Role where
  | start
  | step
  | finish
  deriving DecidableEq, Repr

/-- The name of a role. -/
def Role.name : Role → String
  | .start => "start"
  | .step => "step"
  | .finish => "end"

/-- The role with a name. -/
def Role.ofName? : String → Option Role
  | "start" => some .start
  | "step" => some .step
  | "end" => some .finish
  | _ => none

/-- Where a record comes from: a document, or hints given beside the documents. -/
inductive Origin where
  | parsed
  | hinted
  deriving DecidableEq, Repr

/-- The name of an origin. -/
def Origin.name : Origin → String
  | .parsed => "parsed"
  | .hinted => "hinted"

/-- The origin with a name. -/
def Origin.ofName? : String → Option Origin
  | "parsed" => some .parsed
  | "hinted" => some .hinted
  | _ => none

/-- What is known about one component. -/
structure Record where
  /-- Unique within the document. -/
  id : String
  name : String
  /-- The type of the source element, as written. -/
  sourceType : String
  /-- A sub-type, such as a connector type or the service called. -/
  variant : Option String := none
  settings : Settings := []
  /-- The piece of the document the record was read from. -/
  rawContent : String := ""
  document : String
  dialect : Option Dialect
  role : Role := .step
  origin : Origin := .parsed
  /-- Records with one merge key describe one component. -/
  mergeKey : Option String := none
  links : List Link := []
  deriving DecidableEq, Repr

namespace Record

/-- The document that hints are said to come from. -/
def hintDocument : String := "<hints>"

/-- A record given as a hint. -/
def hint (id name sourceType : String) : Record :=
  { id, name, sourceType, document := hintDocument, dialect := none, origin := .hinted }

/-- The key by which records are put together: the merge key, or else the id. -/
def groupKey (r : Record) : String := r.mergeKey.getD r.id

end Record

end IntegrationFlow
