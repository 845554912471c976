import IntegrationFlow.Source.Configuration
import IntegrationFlow.Source.Walk

/-!
# webMethods flow services

A service is a tree of steps, numbered in document order, between a start and an end. Sequences are
transparent, branches and loops hold steps, and a repeat runs back to itself.
-/

namespace IntegrationFlow.Source.WebMethods

open Xml (Element Content)

/-! ### Settings -/

/-- A pipeline path such as `/order;2;0/id;1;0` as `order/id`. -/
def pipelinePath? (s : String) : Option String :=
  match (Text.trim s).toList with
  | '/' :: cs =>
    let segments :=
      ((Text.splitOn '/' cs).map fun segment => segment.takeWhile (· != ';')).filter
        fun segment => !segment.isEmpty
    if segments.isEmpty then none else some ("/".intercalate (segments.map String.ofList))
  | _ => none

/-- A pipeline path refers to data; anything else is literal. -/
def settingOf (s : String) : Setting :=
  match pipelinePath? s with
  | some path => .reference path
  | none => .literal s

/-- The names of steps. -/
def stepNames : List String := ["INVOKE", "MAP", "BRANCH", "LOOP", "REPEAT", "EXIT", "SEQUENCE"]

/-- Whether an element is a step. -/
def isStep (e : Element) : Bool := e.name ∈ stepNames

/-- The elements of a step that are no settings: comments and the details of mappings. -/
def detailNames : List String :=
  ["COMMENT", "MAPTARGET", "MAPSOURCE", "MAPSET", "MAPCOPY", "MAPDELETE", "MAPINVOKE"]

/-- How configuration is read. -/
def reading : Reading where
  value := settingOf
  descend e := !isStep e && e.name ∉ detailNames

/-- A key for a pipeline path below `path`. -/
def mappingKey (path field : String) : String :=
  path ++ "." ++ String.ofList (field.toList.map fun c => if c = '/' then '.' else c)

/-- The setting that a mapping step makes: it copies, sets or drops a field. -/
def mappingSetting? (path : String) (e : Element) : Option (String × Setting) :=
  match e.name with
  | "MAPCOPY" => do
    let source ← pipelinePath? (← e.attr "FROM")
    let target ← pipelinePath? (← e.attr "TO")
    return (mappingKey path target, .reference source)
  | "MAPSET" => do
    let field ← pipelinePath? (← e.attr "FIELD")
    return (mappingKey path field, .literal (((e.descendant "value").map Element.text).getD ""))
  | "MAPDELETE" => do
    let field ← pipelinePath? (← e.attr "FIELD")
    return (mappingKey (path ++ ".drop") field, .literal "true")
  | _ => none

/-- The settings that the mapping steps of a map make. -/
def mappingEntries (path : String) (map : Element) : List (String × Setting) :=
  map.elements.filterMap (mappingSetting? path)

/-- The path for the map of a service call, by its mode. -/
def modePath : Option String → String
  | some "INPUT" => "input"
  | some "OUTPUT" => "output"
  | _ => "map"

/-- The settings of the mappings in a step. -/
def stepMappings (e : Element) : List (String × Setting) :=
  match e.name with
  | "INVOKE" => (e.findAll "MAP").flatMap fun m => mappingEntries (modePath (m.attr "MODE")) m
  | "MAP" => mappingEntries "map" e
  | _ => []

/-! ### Records -/

/-- The id of the step with a number. -/
def stepId (n : Nat) : String := "step" ++ toString n

/-- The comment of a step, unless it is blank. -/
def comment? (e : Element) : Option String :=
  ((e.find "COMMENT").map Element.text).filter fun s => !s.isEmpty

/-- The service a step calls, or the signal it raises. -/
def variantOf (e : Element) : Option String :=
  match e.name with
  | "INVOKE" => e.attrNonBlank "SERVICE"
  | "EXIT" => e.attrNonBlank "SIGNAL"
  | _ => none

/-- The record of a step. -/
def stepRecord (source : SourceText) (e : Element) (role : Role) (n : Nat) : Record where
  id := stepId n
  name := (((e.attrNonBlank "NAME").or (e.attrNonBlank "SERVICE")).or (comment? e)).getD e.name
  sourceType := e.name
  variant := variantOf e
  settings := OrderedMap.ofList (entries reading "" e ++ stepMappings e)
  rawContent := source.raw e
  document := source.document
  dialect := some .webMethods
  role := role

/-- Emits the record of a step; its id comes with the walk. -/
def emit (source : SourceText) (e : Element) (role : Role) (w : Walk) : String × Walk :=
  (stepId (w.next + 1), (w.emit (stepRecord source e role (w.next + 1))).advance)

/-! ### Steps -/

/-- How a step takes part in the flow. -/
inductive Kind where
  | sequence
  | branch
  | loop
  | repeats
  | leaves
  | plain
  deriving DecidableEq, Repr

/-- The kind of the step with a name. -/
def Kind.ofName : String → Kind
  | "SEQUENCE" => sequence
  | "BRANCH" => branch
  | "LOOP" => loop
  | "REPEAT" => repeats
  | "EXIT" => leaves
  | _ => plain

/-- Whether an exit step ends the flow. -/
def endsFlow (e : Element) : Bool :=
  (e.attr "FROM").any (fun s => Text.trim s == "$flow") ||
    (e.attr "SIGNAL").any fun s => s.toList.map Char.toUpper == "FAILURE".toList

/-- The form of a sequence. -/
def formOf (e : Element) : Option String := if e.name == "SEQUENCE" then e.attr "FORM" else none

/-- The label of a case of a branch. -/
def labelOf (e : Element) : Option String := e.attrNonBlank "NAME"

/-- Whether a branch has a case for everything else. -/
def hasDefault (e : Element) : Bool :=
  e.elements.any fun c => isStep c && labelOf c == some "$default"

mutual

/-- The steps of a content after the run `before`. `guarded` is the entry of the last step, if that
is a sequence that the next one may catch the errors of. -/
def steps (source : SourceText) (before : Fragment) (guarded : Option String) :
    List (Content Element) → Walk → Fragment × Walk
  | [], w => (before, w)
  | .text _ :: cs, w => steps source before guarded cs w
  | .element ⟨name, attributes, children, span⟩ :: cs, w =>
    let e : Element := ⟨name, attributes, children, span⟩
    if e.name == "COMMENT" then steps source before guarded cs w
    else if !isStep e then
      steps source before guarded cs
        (w.warn (source.warning e ("Unknown flow step <" ++ e.name ++ "> was skipped")))
    else
      match guarded, formOf e == some "CATCH" with
      | some entry, true =>
        let (handler, w) := steps source {} none children w
        let w :=
          match handler.entry with
          | some first => w.link entry first .error
          | none => w
        steps source ⟨before.entry, before.exits ++ handler.exits⟩ guarded cs w
      | _, _ =>
        let (f, w) := step source ⟨name, attributes, children, span⟩ w
        let guarded :=
          if f.entry.isNone then guarded
          else if formOf e == some "TRY" then f.entry
          else none
        let (joined, w) := w.join before f
        steps source joined guarded cs w

/-- The run of a step. -/
def step (source : SourceText) : Element → Walk → Fragment × Walk
  | ⟨name, attributes, children, span⟩, w =>
    let e : Element := ⟨name, attributes, children, span⟩
    match Kind.ofName e.name with
    | .sequence => steps source {} none children w
    | .branch =>
      let (id, w) := emit source e .step w
      let (exits, w) := cases source id children w
      (⟨some id, if hasDefault e then exits else exits ++ [⟨id, none⟩]⟩, w)
    | .loop =>
      let (id, w) := emit source e .step w
      let (body, w) := steps source {} none children w
      match body.entry with
      | some entry => (⟨some id, body.exits⟩, w.link id entry)
      | none => (.single id, w)
    | .repeats =>
      let (id, w) := emit source e .step w
      let (body, w) := steps source {} none children w
      match body.entry with
      | some entry => (.single id, (w.link id entry).connect body.exits id)
      | none => (.single id, w)
    | .leaves =>
      if endsFlow e then
        let (id, w) := emit source e .finish w
        (.terminal id, w)
      else
        let (id, w) := emit source e .step w
        (.single id, w)
    | .plain =>
      let (id, w) := emit source e .step w
      (.single id, w)

/-- The loose ends of the cases of a branch. -/
def cases (source : SourceText) (id : String) :
    List (Content Element) → Walk → List Exit × Walk
  | [], w => ([], w)
  | .text _ :: cs, w => cases source id cs w
  | .element e :: cs, w =>
    if isStep e then
      let (body, w) := step source e w
      let (exits, w) :=
        match body.entry with
        | some entry => (body.exits, w.link id entry .sequence (labelOf e))
        | none => ([⟨id, labelOf e⟩], w)
      let (rest, w) := cases source id cs w
      (exits ++ rest, w)
    else cases source id cs w

end

/-! ### Services -/

/-- A reversed file name without the endings `.xml`. -/
def dropEndings : List Char → List Char
  | 'l' :: 'm' :: 'x' :: '.' :: cs => dropEndings cs
  | cs => cs

/-- The name of a service: the last part of the path of its document that is not `flow`. -/
def serviceName (document : String) : String :=
  let path := (dropEndings document.toList.reverse).reverse
  let parts := (Text.splitOn '/' path).map String.ofList
  (parts.reverse.find? fun p => !p.isEmpty && p != "flow").getD "Start"

/-- The record where a service starts. -/
def startRecord (source : SourceText) (root : Element) : Record where
  id := "start"
  name := serviceName source.document
  sourceType := "FLOW"
  settings := OrderedMap.ofList (root.attributes.map fun a => (a.1, settingOf a.2))
  document := source.document
  dialect := some .webMethods
  role := .start

/-- The record where a service ends. -/
def endRecord (source : SourceText) : Record where
  id := "end"
  name := "End"
  sourceType := "FLOW"
  variant := some "end"
  document := source.document
  dialect := some .webMethods
  role := .finish

/-- The records of a service. -/
def read (source : SourceText) (root : Element) : List Record × List Diagnostic :=
  if root.name == "FLOW" then
    let w := ({} : Walk).emit (startRecord source root)
    let (body, w) := steps source {} none root.children w
    let (chained, w) := w.join (.single "start") body
    let w := (w.emit (endRecord source)).connect chained.exits "end"
    (w.finish, w.issues)
  else
    ([], [source.warning root
      ("Expected a <FLOW> root element, found <" ++ root.name ++ ">")])

end IntegrationFlow.Source.WebMethods
