import IntegrationFlow.Xml.Element

/-!
# Paths into a tree

A path lists positions among child elements, from the root down.
-/

namespace IntegrationFlow.Xml.Element

/-- The descendant at a path. -/
def get? (e : Element) : List Nat → Option Element
  | [] => some e
  | i :: path =>
    match e.elements[i]? with
    | some c => c.get? path
    | none => none

/-- The content with its child element at a position replaced. -/
def replaceIn (i : Nat) (child : Element) : List (Content Element) → List (Content Element)
  | [] => []
  | .text s :: cs => .text s :: replaceIn i child cs
  | .element e :: cs =>
    match i with
    | 0 => .element child :: cs
    | i + 1 => .element e :: replaceIn i child cs

/-- The tree with the descendant at a path changed; a path that leads nowhere changes nothing. -/
def modifyAt (e : Element) (f : Element → Element) : List Nat → Element
  | [] => f e
  | i :: path =>
    match e.elements[i]? with
    | some c => { e with children := replaceIn i (c.modifyAt f path) e.children }
    | none => e

end IntegrationFlow.Xml.Element
