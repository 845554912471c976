import IntegrationFlow.Source.Configuration
import IntegrationFlow.Source.Walk

/-!
# Boomi processes

A process is a list of shapes. Each shape is a component, and each of its drag points is a link to
the shape it names.
-/

namespace IntegrationFlow.Source.Boomi

open Xml (Element)

/-! ### Settings -/

/-- The kinds of parameter value that are bound to data. -/
def boundTypes : List String := ["profile", "track", "process"]

/-- The attributes that may name the data a parameter value is bound to, the best first. -/
def bindingAttributes : List String :=
  ["elementName", "propertyName", "propertyId", "name", "key"]

/-- The path of data that a parameter value is bound to. -/
def boundPath (valueType : String) (detail : Option Element) : String :=
  match detail.bind fun d => bindingAttributes.findSome? d.attrNonBlank with
  | some name => valueType ++ "/" ++ name
  | none => valueType

/-- The literal of a parameter value: the first attribute of its detail that is not blank, or else
its text. -/
def literalValue (e : Element) (detail : Option Element) : String :=
  let written := detail.bind fun d =>
    (d.attributes.find? fun a => !Text.isBlank a.2).map (·.2)
  written.getD e.text

/-- A parameter value with a key or a name is one entry. -/
def parameterValue? (e : Element) : Option (String × Setting) :=
  if e.localName == "parametervalue" then
    ((e.attrNonBlank "key").or (e.attrNonBlank "name")).map fun key =>
      let valueType := (e.attr "valueType").getD "static"
      let detail := e.elements.head?
      if valueType ∈ boundTypes then (key, .reference (boundPath valueType detail))
      else (key, .literal (literalValue e detail))
  else none

/-- How configuration is read. -/
def reading : Reading where
  leaf := parameterValue?

/-! ### Shapes -/

/-- The role of a shape type. -/
def roleOf : String → Role
  | "start" => .start
  | "stop" | "returndocuments" | "exception" => .finish
  | _ => .step

/-- Whether a text marks the branch of a try/catch shape that handles errors. -/
def marksCatch (s : String) : Bool :=
  let word := Text.lower (Text.trim s)
  word == "error" || word == "catch"

/-- The kind of link that a drag point is. -/
def kindOf (shapeType : String) (dragpoint : Element) : EdgeKind :=
  if shapeType == "trycatch" &&
      ((dragpoint.attr "identifier").any marksCatch || (dragpoint.attr "text").any marksCatch) then
    .error
  else .sequence

/-- The shape that a drag point leads to. -/
def destination? (dragpoint : Element) : Option String :=
  (dragpoint.attrNonBlank "toShape").filter fun t => t != "unset"

/-- The drag points of a shape. -/
def dragpoints (shape : Element) : List Element :=
  match shape.find "dragpoints" with
  | some ds => ds.findAll "dragpoint"
  | none => []

/-- The link of a drag point that leads somewhere. -/
def link? (shapeType : String) (dragpoint : Element) : Option Link :=
  (destination? dragpoint).map fun target =>
    { target, kind := kindOf shapeType dragpoint,
      condition := (dragpoint.attrNonBlank "text").or (dragpoint.attrNonBlank "identifier") }

/-- The record of a shape. -/
def shapeRecord (source : SourceText) (shape : Element) (id shapeType : String) : Record where
  id := id
  name := ((shape.attrNonBlank "userlabel").or (shape.attrNonBlank "label")).getD shapeType
  sourceType := shapeType
  variant := (shape.find "configuration").bind fun c =>
    c.elements.findSome? fun e => e.attrNonBlank "connectorType"
  settings := ((shape.find "configuration").map (settingsOf reading)).getD []
  rawContent := source.raw shape
  document := source.document
  dialect := some .boomi
  role := roleOf shapeType
  links := (dragpoints shape).filterMap (link? shapeType)

/-- The warnings about drag points of a shape that lead nowhere. -/
def looseWarnings (source : SourceText) (shape : Element) (id : String) : List Diagnostic :=
  ((dragpoints shape).filter fun d => (destination? d).isNone).map fun d =>
    source.warning d ("Dragpoint of shape '" ++ id ++ "' is not connected")

/-- The name and type of a shape that has both. -/
def identity? (shape : Element) : Option (String × String) := do
  return ((← shape.attrNonBlank "name"), (← shape.attrNonBlank "shapetype"))

/-! ### Processes -/

/-- The names of the shapes that are left out. -/
def skippedNames (shapes : List Element) : List String :=
  (shapes.filter fun s => (identity? s).isNone).filterMap fun s => s.attrNonBlank "name"

/-- What is said about the shapes of a process, in order. -/
def shapeWarnings (source : SourceText) (shapes : List Element) : List Diagnostic :=
  shapes.flatMap fun s =>
    match identity? s with
    | some (id, _) => looseWarnings source s id
    | none => [source.warning s "Shape without a name or shapetype was skipped"]

/-- The records of shapes. Links to a shape that is left out are dropped. -/
def shapeRecords (source : SourceText) (shapes : List Element) : List Record :=
  let skipped := skippedNames shapes
  shapes.filterMap fun s => (identity? s).map fun (id, shapeType) =>
    let r := shapeRecord source s id shapeType
    { r with links := r.links.filter fun l => l.target ∉ skipped }

/-- The records of a process. -/
def read (source : SourceText) (root : Element) : List Record × List Diagnostic :=
  let refuse (message : String) := ([], [source.warning root message])
  if root.localName != "Component" then
    refuse ("Expected a <bns:Component> root element, found <" ++ root.name ++ ">")
  else
    match (root.attr "type").filter fun t => t != "process" with
    | some kind => refuse ("Component type '" ++ kind ++ "' is not a process; no shapes read")
    | none =>
      match root.descendant "shapes" with
      | none => refuse "Process has no <shapes> element"
      | some shapes =>
        let shapes := shapes.findAll "shape"
        (shapeRecords source shapes, shapeWarnings source shapes)

end IntegrationFlow.Source.Boomi
