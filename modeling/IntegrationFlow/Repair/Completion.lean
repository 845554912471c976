import IntegrationFlow.Repair.Basic

/-!
# Completion of nodes

A node states its type and its activity and has a value for every property that its type cannot do
without. The check adds what is missing and reports what contradicts itself.
-/

namespace IntegrationFlow.Repair

open Xml (Element)
open Bpmn (Document Template property properties)

/-! ### Values of properties -/

/-- The values of a key, each once, in order. -/
def distinctValues (extension : Element) (key : String) : List String :=
  ((properties extension).filter fun p => p.1 == key).foldl
    (fun seen p => if p.2 ∈ seen then seen else seen ++ [p.2]) []

/-- Sets the value of a property element. -/
def setValue (value : String) (entry : Element) : Element :=
  if (entry.find "value").isSome then
    entry.modifyFirst (fun e => e.localName == "value") fun e =>
      { e with children := [.text value] }
  else entry.push (.ofText "value" value)

/-- Sets the value of every property with a key. -/
def setPropertyValue (key value : String) (extension : Element) : Element :=
  extension.mapElements fun entry =>
    if entry.localName == "property" && (entry.find "key").map Element.text == some key then
      setValue value entry
    else entry

/-! ### One node -/

/-- The type of a node with an extension, or why it has none. A type that is not stated is
inferred, and then stated. -/
def settleType (id tag : String) (inferred : TargetType) (extension : Element) :
    Except Diagnostic (TargetType × Element × Report) :=
  match distinctValues extension "componentType" with
  | [] =>
    .ok (inferred, extension.push (property "componentType" inferred.name),
      [repaired (some id)
        ("Inserted componentType '" ++ inferred.name ++ "' inferred from <" ++ tag ++ ">")])
  | [single] =>
    match TargetType.ofName? single with
    | some target => .ok (target, extension, [])
    | none => .error (defect (some id) ("Unknown component type '" ++ single ++ "'"))
  | several =>
    .error (defect (some id) ("Conflicting component types: " ++ ", ".intercalate several))

/-- States the activity unless one is stated. -/
def completeActivity (id : String) (t : Template) (extension : Element) : Element × Report :=
  if (distinctValues extension "activityType").isEmpty then
    (extension.push (property "activityType" t.activityType),
      [repaired (some id) ("Inserted activityType '" ++ t.activityType ++ "'")])
  else (extension, [])

/-- Gives a mandatory property its default unless it has a value. -/
def completeProperty (id key default : String) (extension : Element) : Element × Report :=
  match distinctValues extension key with
  | [] =>
    (extension.push (property key default),
      [repaired (some id) ("Inserted mandatory property '" ++ key ++ "' = '" ++ default ++ "'")])
  | [single] =>
    if Text.isBlank single then
      (setPropertyValue key default extension,
        [repaired (some id)
          ("Filled empty mandatory property '" ++ key ++ "' with '" ++ default ++ "'")])
    else (extension, [])
  | several =>
    (extension,
      [defect (some id) <|
        "Mandatory property '" ++ key ++ "' has conflicting values: " ++
          ", ".intercalate several])

/-- Completes the extension of a node with what its template asks for. -/
def completeFor (id : String) (t : Template) : Element → Element × Report :=
  t.mandatory.foldl (fun f (key, default) => andThen f (completeProperty id key default))
    (completeActivity id t)

/-- Completes the extension of a node. -/
def completeExtension (id tag : String) (inferred : TargetType) (extension : Element) :
    Element × Report :=
  match settleType id tag inferred extension with
  | .error d => (extension, [d])
  | .ok (target, typed, report) =>
    match Bpmn.standardTemplate? target with
    | none => (typed, report)
    | some t =>
      if t.tag ≠ tag then
        (typed, report ++
          [defect (some id) <|
            "Component type '" ++ target.name ++ "' requires a <" ++ t.tag ++
              "> element, found <" ++ tag ++ ">"])
      else
        let (complete, more) := completeFor id t typed
        (complete, report ++ more)

/-- Gives a node an extension, ahead of its other elements, unless it has one. -/
def ensureExtension (node : Element) : Element × Report :=
  if (node.find "extensionElements").isSome then (node, [])
  else
    (node.insertBefore { name := qualified node.namespacePart "extensionElements" } fun _ => true,
      [repaired (some (attrOrEmpty node "id")) "Inserted missing extensionElements"])

/-- Completes the extension that a node has. -/
def completeStated (inferred : TargetType) (node : Element) : Element × Report :=
  let f := completeExtension (attrOrEmpty node "id") node.localName inferred
  match node.find "extensionElements" with
  | some extension =>
    (node.modifyFirst (fun e => e.localName == "extensionElements") fun e => (f e).1,
      (f extension).2)
  | none => (node, [])

/-- Completes a node. -/
def completeNode (node : Element) : Element × Report :=
  match Bpmn.inferTarget? node with
  | some inferred => andThen ensureExtension (completeStated inferred) node
  | none => (node, [])

/-! ### The check -/

/-- Completes every node. -/
def mandatoryProperties : Check where
  name := "mandatory-properties"
  apply := onProcess (onFlowNodes completeNode)

end IntegrationFlow.Repair
