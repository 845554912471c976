import IntegrationFlow.Record
import IntegrationFlow.Xml.Element

/-!
# Settings of an element

The configuration below an element, as a flat list of keys and values. A key is the path of element
names down to an attribute, such as `connection.host`; elements that repeat are numbered, and the
text of an element goes by the path of the element itself.
-/

namespace IntegrationFlow.Source

open Xml (Element Content)

/-- What a dialect makes of configuration. -/
structure Reading where
  /-- The setting that an attribute or a text stands for. -/
  value : String → Setting := .literal
  /-- An element that is one entry as a whole, with its key. -/
  leaf : Element → Option (String × Setting) := fun _ => none
  /-- Whether a child element is configuration. -/
  descend : Element → Bool := fun _ => true
  /-- Whether an attribute is configuration. -/
  keepAttribute : String → Bool := fun _ => true

/-- A path one step further down. -/
def joinPath (path segment : String) : String :=
  if path.isEmpty then segment else path ++ "." ++ segment

/-- Whether an attribute declares a namespace. -/
def isNamespaceDeclaration (key : String) : Bool :=
  key == "xmlns" || Text.beginsWith "xmlns:" key

/-- The entries of the attributes of an element. -/
def attributeEntries (r : Reading) (path : String) (attributes : List (String × String)) :
    List (String × Setting) :=
  (attributes.filter fun a => !isNamespaceDeclaration a.1 && r.keepAttribute a.1).map
    fun a => (joinPath path (Xml.localPart a.1), r.value a.2)

/-- The entry of the text of an element. -/
def textEntries (r : Reading) (path text : String) : List (String × Setting) :=
  if text.isEmpty then [] else [(if path.isEmpty then "text" else path, r.value text)]

/-- The path segment of a child element: its local name, numbered if there are `names` with the
same. `before` holds the names of the children that precede it. -/
def segmentOf (names before : List String) (name : String) : String :=
  if 1 < names.count name then name ++ "[" ++ toString (before.count name) ++ "]" else name

/-- The local names of the child elements that are configuration. -/
def childNames (r : Reading) (e : Element) : List String :=
  (e.elements.filter r.descend).map Element.localName

mutual

/-- The entries of an element at a path. -/
def entries (r : Reading) (path : String) : Element → List (String × Setting)
  | ⟨name, attributes, children, span⟩ =>
    attributeEntries r path attributes ++
      textEntries r path (Element.text ⟨name, attributes, children, span⟩) ++
      childEntries r path (childNames r ⟨name, attributes, children, span⟩) [] children

/-- The entries of the child elements of an element at a path. `names` holds the local names of
all of them, `before` those of the ones passed. -/
def childEntries (r : Reading) (path : String) (names before : List String) :
    List (Content Element) → List (String × Setting)
  | [] => []
  | .text _ :: cs => childEntries r path names before cs
  | .element e :: cs =>
    if r.descend e then
      (match r.leaf e with
        | some (key, value) => [(joinPath path key, value)]
        | none => entries r (joinPath path (segmentOf names before e.localName)) e) ++
        childEntries r path names (e.localName :: before) cs
    else childEntries r path names before cs

end

/-- The settings below an element. A later entry with the key of an earlier one takes its place. -/
def settingsOf (r : Reading) (e : Element) : Settings := OrderedMap.ofList (entries r "" e)

end IntegrationFlow.Source
