import IntegrationFlow.Source.Configuration
import IntegrationFlow.Source.Walk

/-!
# Mule applications

Each flow is a chain of processors, numbered in document order. A flow that begins with a message
source gets an end of its own. Choices, scatter-gathers, loops and try scopes hold chains
themselves, and error handlers hang off the first step of what they protect.
-/

namespace IntegrationFlow.Source.Mule

open Xml (Element Content)

/-! ### Settings -/

/-- A segment of a plain path: a letter or underscore, then letters, digits, underscores and
hyphens. -/
def isPathSegment : List Char → Bool
  | [] => false
  | c :: cs => (c.isAlpha || c == '_') && cs.all fun c => c.isAlphanum || c == '_' || c == '-'

/-- A dotted path with slashes for its dots, if it is nothing more than that. -/
def dottedPath? (expression : String) : Option String :=
  let segments := Text.splitOn '.' (Text.trim expression).toList
  if segments.all isPathSegment then some ("/".intercalate (segments.map String.ofList))
  else none

/-- What is between `#[` and `]`. -/
def expressionBody? (s : String) : Option String :=
  match (Text.trim s).toList with
  | '#' :: '[' :: cs => if cs.getLast? = some ']' then some (String.ofList cs.dropLast) else none
  | _ => none

/-- An expression that is a plain path refers to data; anything else is literal. -/
def settingOf (s : String) : Setting :=
  match (expressionBody? s).bind dottedPath? with
  | some path => .reference path
  | none => .literal s

/-- Whether an element documents rather than configures. -/
def isDocumentation (e : Element) : Bool := e.namespacePart == some "doc"

/-- Whether an attribute is kept: those that document are not. -/
def keepAttribute (key : String) : Bool := !Text.beginsWith "doc:" key

/-- How configuration is read. -/
def reading : Reading where
  value := settingOf
  descend e := !isDocumentation e
  keepAttribute := keepAttribute

/-! ### Kinds of elements -/

/-- Whether an element processes messages. -/
def isProcessor (e : Element) : Bool :=
  !isDocumentation e && e.localName != "error-handler" && e.localName != "description"

/-- Whether an element is a source of messages. -/
def isMessageSource (e : Element) : Bool :=
  let name := e.localName
  name == "listener" || name == "scheduler" || name == "poll" ||
    Text.finishesWith "-listener" name || Text.beginsWith "on-new" name ||
    Text.hasPart "new-or-updated" name

/-- The elements whose children are processors and not configuration. -/
def containers : List String :=
  ["choice", "scatter-gather", "foreach", "parallel-foreach", "until-successful", "try", "when",
   "otherwise", "route", "async"]

/-- How a processor takes part in the flow. -/
inductive Kind where
  | choice
  | scatterGather
  /-- A scope that control enters and leaves through its last step. -/
  | loop
  | tryScope
  | flowRef
  | raiseError
  | plain
  deriving DecidableEq, Repr

/-- The kind of the processor with a local name. -/
def Kind.ofName : String → Kind
  | "choice" => choice
  | "scatter-gather" => scatterGather
  | "foreach" | "parallel-foreach" | "until-successful" => loop
  | "try" => tryScope
  | "flow-ref" => flowRef
  | "raise-error" => raiseError
  | _ => plain

/-! ### Records -/

/-- The flow that is walked, in its document. -/
structure Scope where
  source : SourceText
  /-- The settings of named elements outside of flows. -/
  globals : OrderedMap String Settings
  flow : String

namespace Scope

/-- The id of the record with a number. -/
def numbered (s : Scope) (n : Nat) : String := s.flow ++ "/" ++ toString n

/-- The settings of a processor; those of the global element that it refers to follow its own. -/
def settings (s : Scope) (e : Element) : Settings :=
  let own :=
    if e.localName ∈ containers then
      (e.attributes.filter fun a => keepAttribute a.1 && !Text.beginsWith "xmlns" a.1).map
        fun a => (a.1, settingOf a.2)
    else entries reading "" e
  let shared := ((e.attrNonBlank "config-ref").bind (OrderedMap.get? s.globals)).getD []
  OrderedMap.ofList (own ++ shared.map fun entry => ("config." ++ entry.1, entry.2))

/-- The record of a processor. -/
def record (s : Scope) (e : Element) (role : Role) (n : Nat) : Record where
  id := s.numbered n
  name := (e.attrNonBlank "doc:name").getD e.localName
  sourceType := e.name
  settings := s.settings e
  rawContent := s.source.raw e
  document := s.source.document
  dialect := some .mule
  role := role
  mergeKey := e.attrNonBlank "doc:id"

/-- Emits the record of a processor; its id comes with the walk. -/
def emit (s : Scope) (e : Element) (role : Role) (w : Walk) : String × Walk :=
  (s.numbered w.next, (w.emit (s.record e role w.next)).advance)

/-- Emits a record that stands for no element. -/
def emitSynthetic (s : Scope) (id name sourceType : String) (role : Role) (w : Walk) : Walk :=
  w.emit
    { id, name, sourceType, document := s.source.document, dialect := some .mule, role }

/-- Emits the record where the routes of a scatter-gather come together. -/
def emitAggregate (s : Scope) (e : Element) (w : Walk) : String × Walk :=
  let id := s.numbered w.next
  (id,
    (w.emit
      { id
        name := (e.attrNonBlank "doc:name").getD "scatter-gather" ++ " (aggregate)"
        sourceType := e.name
        variant := some "aggregate"
        document := s.source.document
        dialect := some .mule }).advance)

end Scope

/-! ### Chains -/

/-- Enters a run of steps from a step, with a condition. An empty run leaves the step itself as a
loose end. -/
def enter (id : String) (condition : Option String) (body : Fragment) (w : Walk) :
    List Exit × Walk :=
  match body.entry with
  | some entry => (body.exits, w.link id entry .sequence condition)
  | none => ([⟨id, condition⟩], w)

/-- The loose ends of a choice: those of its branches, and its own when it may match none. -/
def choiceExits (id : String) (exits : List Exit) (hasOtherwise : Bool) : List Exit :=
  if hasOtherwise then exits else exits ++ [⟨id, none⟩]

/-- Whether some branch of a choice is taken when no other is. -/
def hasOtherwise (e : Element) : Bool := e.elements.any fun b => b.localName == "otherwise"

mutual

/-- The runs of the processors of a content, in order. -/
def fragments (s : Scope) : List (Content Element) → Walk → List Fragment × Walk
  | [], w => ([], w)
  | .text _ :: cs, w => fragments s cs w
  | .element e :: cs, w =>
    if isProcessor e then
      let (f, w) := processor s e w
      let (fs, w) := fragments s cs w
      (f :: fs, w)
    else fragments s cs w

/-- The run of a processor. -/
def processor (s : Scope) : Element → Walk → Fragment × Walk
  | ⟨name, attributes, children, span⟩, w =>
    let e : Element := ⟨name, attributes, children, span⟩
    match Kind.ofName e.localName with
    | .choice =>
      let (id, w) := s.emit e .step w
      let (exits, w) := branches s id children w
      (⟨some id, choiceExits id exits (hasOtherwise e)⟩, w)
    | .scatterGather =>
      let (id, w) := s.emit e .step w
      let (exits, w) := routes s id children w
      let (aggregate, w) := s.emitAggregate e w
      let exits := if exits.isEmpty then [⟨id, none⟩] else exits
      (⟨some id, [⟨aggregate, none⟩]⟩, w.connect exits aggregate)
    | .loop =>
      let (id, w) := s.emit e .step w
      let (fs, w) := fragments s children w
      let (body, w) := w.sequence fs
      let (exits, w) := enter id none body w
      (⟨some id, exits⟩, w)
    | .tryScope =>
      let (fs, w) := fragments s children w
      let (body, w) := w.sequence fs
      match body.entry with
      | none => (body, w)
      | some entry =>
        let (exits, w) := firstHandler s entry children w
        (⟨some entry, body.exits ++ exits⟩, w)
    | .flowRef =>
      let (id, w) := s.emit e .step w
      let target := (e.attrNonBlank "name").filter fun n => !Text.beginsWith "#[" n
      (.single id,
        match target with
        | some t => w.link id (t ++ "/0") .reference
        | none => w)
    | .raiseError =>
      let (id, w) := s.emit e .finish w
      (.terminal id, w)
    | .plain =>
      let (id, w) := s.emit e .step w
      (.single id, w)

/-- The loose ends of the branches of a choice. -/
def branches (s : Scope) (id : String) : List (Content Element) → Walk → List Exit × Walk
  | [], w => ([], w)
  | .text _ :: cs, w => branches s id cs w
  | .element ⟨name, attributes, children, span⟩ :: cs, w =>
    let e : Element := ⟨name, attributes, children, span⟩
    if e.localName == "when" || e.localName == "otherwise" then
      let condition :=
        if e.localName == "when" then some (Text.trim ((e.attr "expression").getD "")) else none
      let (fs, w) := fragments s children w
      let (body, w) := w.sequence fs
      let (exits, w) := enter id condition body w
      let (rest, w) := branches s id cs w
      (exits ++ rest, w)
    else
      branches s id cs
        (w.warn (s.source.warning e ("Unexpected <" ++ e.name ++ "> inside <choice>")))

/-- The loose ends of the routes of a scatter-gather. -/
def routes (s : Scope) (id : String) : List (Content Element) → Walk → List Exit × Walk
  | [], w => ([], w)
  | .text _ :: cs, w => routes s id cs w
  | .element ⟨name, _, children, _⟩ :: cs, w =>
    if Xml.localPart name == "route" then
      let (fs, w) := fragments s children w
      let (body, w) := w.sequence fs
      let (exits, w) := enter id none body w
      let (rest, w) := routes s id cs w
      (exits ++ rest, w)
    else routes s id cs w

/-- The loose ends of the first error handler of a content, which protects the step `entry`. -/
def firstHandler (s : Scope) (entry : String) : List (Content Element) → Walk → List Exit × Walk
  | [], w => ([], w)
  | .text _ :: cs, w => firstHandler s entry cs w
  | .element ⟨name, _, children, _⟩ :: cs, w =>
    if Xml.localPart name == "error-handler" then strategies s entry 0 children w
    else firstHandler s entry cs w

/-- The loose ends of the strategies of an error handler, from position `index` on. A strategy that
propagates the error ends in an error end of its own. -/
def strategies (s : Scope) (entry : String) (index : Nat) :
    List (Content Element) → Walk → List Exit × Walk
  | [], w => ([], w)
  | .text _ :: cs, w => strategies s entry index cs w
  | .element ⟨name, attributes, children, span⟩ :: cs, w =>
    let e : Element := ⟨name, attributes, children, span⟩
    if e.localName == "on-error-propagate" || e.localName == "on-error-continue" then
      let (fs, w) := fragments s children w
      let (body, w) := w.sequence fs
      let (handled, w) :=
        if e.localName == "on-error-propagate" then
          let id := s.flow ++ "/error-end-" ++ toString index
          let w := s.emitSynthetic id "Error End" "on-error-propagate" .finish w
          w.sequence [body, .terminal id]
        else (body, w)
      let w :=
        match handled.entry with
        | some first => w.link entry first .error (e.attrNonBlank "type")
        | none => w
      let (rest, w) := strategies s entry (index + 1) cs w
      (handled.exits ++ rest, w)
    else
      strategies s entry (index + 1) cs
        (w.warn (s.source.warning e ("Unsupported error strategy <" ++ e.name ++ ">")))

end

/-! ### Flows -/

/-- The content without its first processor. -/
def afterFirstProcessor : List (Content Element) → List (Content Element)
  | [] => []
  | .text s :: cs => .text s :: afterFirstProcessor cs
  | .element e :: cs => if isProcessor e then cs else .element e :: afterFirstProcessor cs

/-- The message source that a flow begins with. -/
def messageSource? (flow : Element) : Option Element :=
  (flow.elements.find? isProcessor).filter isMessageSource

/-- The chain of processors of a flow, with the message source that it begins with. -/
def chain (s : Scope) (flow : Element) (w : Walk) : Fragment × Walk :=
  match messageSource? flow with
  | some first =>
    let (start, w) := s.emit first .start w
    let (fs, w) := fragments s (afterFirstProcessor flow.children) w
    let (body, w) := w.sequence fs
    w.join (.single start) body
  | none =>
    let (fs, w) := fragments s flow.children w
    w.sequence fs

/-- Walks a flow: its chain, the end of one that begins with a message source, and the error
handlers. -/
def walkFlow (s : Scope) (flow : Element) (w : Walk) : Walk :=
  let (chained, w) := chain s flow { w with next := 0 }
  match chained.entry with
  | none => w
  | some entry =>
    if (messageSource? flow).isSome then
      let finish := s.flow ++ "/end"
      let w := (s.emitSynthetic finish "End" "end" .finish w).connect chained.exits finish
      let (exits, w) := firstHandler s entry flow.children w
      w.connect exits finish
    else (firstHandler s entry flow.children w).2

/-- Whether an element is a flow. -/
def isFlow (e : Element) : Bool := e.localName == "flow" || e.localName == "sub-flow"

/-- The settings of the named elements outside of flows. -/
def globalSettings (root : Element) : OrderedMap String Settings :=
  OrderedMap.ofList <| (root.elements.filter fun e => !isFlow e).filterMap fun e =>
    (e.attrNonBlank "name").map fun name => (name, settingsOf reading e)

/-- Walks a flow of an application, unless it has no name or a name that is taken. -/
def walkNamed (source : SourceText) (globals : OrderedMap String Settings) (w : Walk)
    (flow : Element) : Walk :=
  match flow.attrNonBlank "name" with
  | none => w.warn (source.warning flow ("<" ++ flow.name ++ "> without a name was skipped"))
  | some name =>
    if w.records.any fun r => r.id == name ++ "/0" then
      w.warn (source.warning flow ("Duplicate flow name '" ++ name ++ "' was skipped"))
    else walkFlow ⟨source, globals, name⟩ flow w

/-- The records of an application. -/
def read (source : SourceText) (root : Element) : List Record × List Diagnostic :=
  if root.localName == "mule" then
    let w := (root.elements.filter isFlow).foldl (walkNamed source (globalSettings root)) {}
    (w.finish, w.issues)
  else
    ([], [source.warning root
      ("Expected a <mule> root element, found <" ++ root.name ++ ">")])

end IntegrationFlow.Source.Mule
