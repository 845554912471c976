import IntegrationFlow.Xml.Element
import IntegrationFlow.Xml.Entity

/-!
# Writing documents

Each tag begins a line of its own, indented by two blanks for each level, unless a text precedes
it. What is written depends on the tree alone.
-/

namespace IntegrationFlow.Xml

/-- The line break and the blanks before a tag at a depth. -/
def indentation (depth : Nat) : String :=
  "\n" ++ String.ofList (List.replicate (2 * depth) ' ')

/-- The attributes of a tag. -/
def printAttributes (attributes : List (String × String)) : String :=
  String.join <| attributes.map fun (key, value) =>
    " " ++ key ++ "=\"" ++ Entity.escape value ++ "\""

/-- Whether the last part of a content is a text. -/
def endsInText : List (Content Element) → Bool
  | [] => false
  | [.text _] => true
  | [.element _] => false
  | _ :: c :: cs => endsInText (c :: cs)

mutual

/-- An element at a depth. No line break precedes it after a text. -/
def printElement (depth : Nat) (afterText : Bool) : Element → String
  | ⟨name, attributes, [], _⟩ =>
    (if afterText then "" else indentation depth) ++ "<" ++ name ++ printAttributes attributes ++
      "/>"
  | ⟨name, attributes, c :: cs, _⟩ =>
    (if afterText then "" else indentation depth) ++ "<" ++ name ++ printAttributes attributes ++
      ">" ++ printContent (depth + 1) false (c :: cs) ++
      (if endsInText (c :: cs) then "" else indentation depth) ++ "</" ++ name ++ ">"

/-- A content at a depth. -/
def printContent (depth : Nat) (afterText : Bool) : List (Content Element) → String
  | [] => ""
  | .text s :: cs => Entity.escape s ++ printContent depth true cs
  | .element e :: cs => printElement depth afterText e ++ printContent depth false cs

end

/-- A tree as a document. -/
def print (e : Element) : String :=
  "<?xml version=\"1.0\" encoding=\"UTF-8\"?>" ++ printElement 0 false e ++ "\n"

end IntegrationFlow.Xml
