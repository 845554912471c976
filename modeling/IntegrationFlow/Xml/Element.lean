import IntegrationFlow.OrderedMap
import IntegrationFlow.Text.Basic

/-!
# XML elements

A tree of elements with ordered attributes and ordered content. Source documents are read into
such trees and process documents are built from them.
-/

namespace IntegrationFlow.Xml

/-- A part of an element's content: an element or a text. -/
inductive Content (ε : Type) where
  | element (e : ε)
  | text (s : String)

/-- A range of bytes in a source text. -/
structure Span where
  start : Nat
  stop : Nat
  deriving DecidableEq, Repr

/-- An element. Its name and the keys of its attributes are qualified names as written, such as
`http:request`. Only an element that was read from a text has a span. -/
structure Element where
  name : String
  attributes : OrderedMap String String := []
  children : List (Content Element) := []
  span : Option Span := none

instance : Inhabited Element := ⟨⟨"", [], [], none⟩⟩

/-! ### Equality -/

mutual

/-- Whether two elements agree in everything, spans included. -/
def Element.beq : Element → Element → Bool
  | ⟨name, attributes, children, span⟩, ⟨name', attributes', children', span'⟩ =>
    name == name' && attributes == attributes' && span == span' && contentBeq children children'

/-- Whether two contents agree. -/
def contentBeq : List (Content Element) → List (Content Element) → Bool
  | [], [] => true
  | .text s :: cs, .text s' :: cs' => s == s' && contentBeq cs cs'
  | .element e :: cs, .element e' :: cs' => e.beq e' && contentBeq cs cs'
  | _, _ => false

end

instance : BEq Element := ⟨Element.beq⟩

/-! ### Names -/

/-- The local part of a qualified name: what follows its last colon. -/
def localPart (name : String) : String := Text.afterLast ':' name

namespace Element

/-- The name without its namespace. -/
def localName (e : Element) : String := localPart e.name

/-- The namespace of the name, if it has one: what precedes its first colon. -/
def namespacePart (e : Element) : Option String :=
  if e.name.toList.contains ':' then some (Text.beforeFirst ':' e.name) else none

/-! ### Attributes -/

/-- The value of the first attribute with a key. -/
def attr (e : Element) (key : String) : Option String := OrderedMap.get? e.attributes key

/-- The value of the first attribute whose key has a local part. -/
def attrLocal (e : Element) (name : String) : Option String :=
  (e.attributes.find? fun a => localPart a.1 == name).map (·.2)

/-- The trimmed value of an attribute; a blank one counts as absent. -/
def attrNonBlank (e : Element) (key : String) : Option String :=
  match e.attr key with
  | some value => if Text.isBlank value then none else some (Text.trim value)
  | none => none

/-- Sets an attribute; one that is present keeps its place. -/
def setAttr (e : Element) (key value : String) : Element :=
  { e with attributes := OrderedMap.insert e.attributes key value }

/-- Removes the first attribute with a key. -/
def eraseAttr (e : Element) (key : String) : Element :=
  { e with attributes := e.attributes.eraseP fun a => a.1 == key }

/-! ### Content -/

/-- The child elements, without the texts. -/
def elements (e : Element) : List Element :=
  e.children.filterMap fun
    | .element c => some c
    | .text _ => none

/-- The first child element with a local name. -/
def find (e : Element) (name : String) : Option Element :=
  e.elements.find? fun c => c.localName == name

/-- The child elements with a local name. -/
def findAll (e : Element) (name : String) : List Element :=
  e.elements.filter fun c => c.localName == name

/-- Whether there is a child element. -/
def hasElements (e : Element) : Bool := !e.elements.isEmpty

/-- The direct text, put together and trimmed. -/
def text (e : Element) : String :=
  Text.trim <| String.join <| e.children.filterMap fun
    | .element _ => none
    | .text s => some s

/-- Adds a child element at the end. -/
def push (e child : Element) : Element := { e with children := e.children ++ [.element child] }

/-- Adds a text at the end. -/
def pushText (e : Element) (s : String) : Element := { e with children := e.children ++ [.text s] }

/-- An element that holds nothing but a text. -/
def ofText (name s : String) : Element := { name, children := [.text s] }

/-- The content with `child` put before the first child element that satisfies `p`, or at the
end. -/
def insertIn (child : Element) (p : Element → Bool) :
    List (Content Element) → List (Content Element)
  | [] => [.element child]
  | .element e :: cs =>
    if p e then .element child :: .element e :: cs else .element e :: insertIn child p cs
  | .text s :: cs => .text s :: insertIn child p cs

/-- Inserts a child before the first child element that satisfies `p`, or at the end. -/
def insertBefore (e child : Element) (p : Element → Bool) : Element :=
  { e with children := insertIn child p e.children }

/-- Keeps the child elements that satisfy `p`, and every text. -/
def keepElements (e : Element) (p : Element → Bool) : Element :=
  { e with
    children := e.children.filter fun
      | .element c => p c
      | .text _ => true }

/-- Changes every child element. -/
def mapElements (e : Element) (f : Element → Element) : Element :=
  { e with
    children := e.children.map fun
      | .element c => .element (f c)
      | .text s => .text s }

/-- The content with its first child element that satisfies `p` changed. -/
def modifyIn (p : Element → Bool) (f : Element → Element) :
    List (Content Element) → List (Content Element)
  | [] => []
  | .element e :: cs => if p e then .element (f e) :: cs else .element e :: modifyIn p f cs
  | .text s :: cs => .text s :: modifyIn p f cs

/-- Changes the first child element that satisfies `p`. -/
def modifyFirst (e : Element) (p : Element → Bool) (f : Element → Element) : Element :=
  { e with children := modifyIn p f e.children }

end Element

/-! ### Descendants -/

mutual

/-- The first descendant with a local name, each element before its own descendants. -/
def Element.descendant (name : String) : Element → Option Element
  | ⟨_, _, children, _⟩ => descendantIn name children

/-- The first element with a local name in a content or below it. -/
def descendantIn (name : String) : List (Content Element) → Option Element
  | [] => none
  | .text _ :: cs => descendantIn name cs
  | .element e :: cs =>
    if e.localName == name then some e
    else
      match e.descendant name with
      | some found => some found
      | none => descendantIn name cs

end

end IntegrationFlow.Xml
