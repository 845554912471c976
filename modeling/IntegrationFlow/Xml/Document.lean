import IntegrationFlow.Diagnostic
import IntegrationFlow.Xml.Element
import IntegrationFlow.Xml.Token

/-!
# Reading documents

Reading a text never fails. Its tokens are folded into a tree: an end tag closes the innermost open
element of its name together with everything opened since, an end tag that names no open element is
skipped, and what is still open at the end is closed there. Each departure from well-formed markup
is recorded as an issue, and the elements read so far are kept.
-/

namespace IntegrationFlow.Xml

/-! ### Issues -/

/-- What can be wrong with a text. -/
inductive Fault where
  | closedImplicitly (name : String)
  | strayClosing (name : String)
  | unreadableText (cause : Entity.Error)
  | neverClosed (count : Nat)
  | namelessDoctype
  | stopped (cause : SyntaxFault)
  | extraRoot (name : String)
  | malformedAttribute (element : String) (cause : Attribute.Error)
  | unreadableAttribute (key element : String) (cause : Entity.Error)
  | noRoot
  deriving DecidableEq, Repr

/-- The wording of a fault in a named document. -/
def Fault.message (document : String) : Fault → String
  | .closedImplicitly name => "Malformed XML, <" ++ name ++ "> closed implicitly"
  | .strayClosing name => "Malformed XML, skipped stray </" ++ name ++ ">"
  | .unreadableText cause => "Unreadable text: " ++ cause.message
  | .neverClosed count => toString count ++ " element(s) were never closed"
  | .namelessDoctype =>
    "Malformed XML, skipped: `<!DOCTYPE>` declaration does not contain a name of a document type"
  | .stopped cause => "Malformed XML, reading stopped: syntax error: " ++ cause.message
  | .extraRoot name => "Ignored extra root element <" ++ name ++ ">"
  | .malformedAttribute element cause =>
    "Skipped malformed attribute on <" ++ element ++ ">: " ++ cause.message
  | .unreadableAttribute key element cause =>
    "Skipped attribute '" ++ key ++ "' on <" ++ element ++ ">: " ++ cause.message
  | .noRoot => "Document '" ++ document ++ "' contains no root element"

/-- A fault and the byte offset it is reported at, if it has a place. -/
structure Issue where
  fault : Fault
  offset : Option Nat
  deriving DecidableEq, Repr

/-- A byte offset as a place in a named document. -/
def location (document text : String) (offset : Nat) : String :=
  let (line, column) := Text.lineColumnAt text offset
  document ++ ":" ++ toString line ++ ":" ++ toString column

/-- An issue as an entry of a report. -/
def Issue.diagnostic (document text : String) (issue : Issue) : Diagnostic :=
  .parseError .warning (issue.fault.message document) (issue.offset.map (location document text))

/-! ### Tags -/

/-- The offset of the first `<` from byte `offset` on, or `offset` itself if there is none or it is
not between two characters. -/
def tagStart (text : List Char) (offset : Nat) : Nat :=
  match Text.dropBytes? offset text with
  | some cs =>
    if cs.contains '<' then offset + Text.byteSize (cs.takeWhile (· != '<')) else offset
  | none => offset

/-- The name at the beginning of a tag text. -/
def tagName (content : List Char) : String :=
  String.ofList (content.takeWhile fun c => !isMarkupSpace c)

/-- What reading gives for each attribute of a tag: an attribute or a fault. -/
def tagAttributes (content : List Char) : List (Except Fault (String × String)) :=
  (Attribute.readAll (Text.byteSize content) []
      (content.dropWhile fun c => !isMarkupSpace c)).map fun
    | .error cause => .error (.malformedAttribute (tagName content) cause)
    | .ok raw =>
      match Entity.unescape raw.value with
      | .ok value => .ok (String.ofList raw.key, value)
      | .error cause =>
        .error (.unreadableAttribute (String.ofList raw.key) (tagName content) cause)

/-! ### Folding tokens into a tree -/

/-- An element whose end has not been met. -/
structure OpenElement where
  name : String
  attributes : List (String × String)
  start : Nat
  children : List (Content Element) := []

/-- The element that results when an open one ends at byte `stop`. -/
def OpenElement.close (o : OpenElement) (stop : Nat) : Element :=
  { name := o.name, attributes := o.attributes, children := o.children,
    span := some ⟨o.start, stop⟩ }

/-- What has been read: the open elements, innermost first, the first complete element that stands
in no other, and the issues in order. -/
structure Reading where
  opened : List OpenElement := []
  root : Option Element := none
  issues : List Issue := []

namespace Reading

/-- Records an issue. -/
def report (r : Reading) (fault : Fault) (offset : Option Nat) : Reading :=
  { r with issues := r.issues ++ [⟨fault, offset⟩] }

/-- Puts a complete element into the innermost open one, or makes it the root. A second root is
left out. -/
def attach (r : Reading) (e : Element) : Reading :=
  match r.opened with
  | o :: os => { r with opened := { o with children := o.children ++ [.element e] } :: os }
  | [] =>
    match r.root with
    | none => { r with root := some e }
    | some _ => r.report (.extraRoot e.name) (some (e.span.elim 0 Span.start))

/-- Ends the innermost open element. -/
def closeInnermost (r : Reading) (stop : Nat) : Reading :=
  match r.opened with
  | [] => r
  | o :: os => { r with opened := os }.attach (o.close stop)

/-- Ends `n` open elements before their own end tags. -/
def closeImplicitly (r : Reading) (stop : Nat) : Nat → Reading
  | 0 => r
  | n + 1 =>
    let name := r.opened.head?.elim "" OpenElement.name
    ((r.report (.closedImplicitly name) (some stop)).closeInnermost stop).closeImplicitly stop n

/-- An end tag that begins at byte `start` and ends at byte `stop`. -/
def closeNamed (r : Reading) (name : String) (start stop : Nat) : Reading :=
  match r.opened.findIdx? fun o => o.name == name with
  | some depth => (r.closeImplicitly start depth).closeInnermost stop
  | none => r.report (.strayClosing name) (some start)

/-- Adds a text to the innermost open element. Blank texts, and texts outside of every element, are
left out. -/
def addText (r : Reading) (s : String) : Reading :=
  match r.opened with
  | [] => r
  | o :: os =>
    if Text.isBlank s then r
    else { r with opened := { o with children := o.children ++ [.text s] } :: os }

/-- Records the faulty attributes of a tag that begins at byte `start`. -/
def reportAttributes (r : Reading) (start : Nat)
    (attributes : List (Except Fault (String × String))) : Reading :=
  { r with
    issues := r.issues ++ attributes.filterMap fun
      | .error fault => some ⟨fault, some start⟩
      | .ok _ => none }

/-- The attributes that could be read. -/
def soundAttributes (attributes : List (Except Fault (String × String))) :
    List (String × String) :=
  attributes.filterMap fun
    | .ok pair => some pair
    | .error _ => none

/-- Takes in one token of a text. -/
def step (text : List Char) (r : Reading) (t : Located) : Reading :=
  match t.token with
  | .opening content =>
    let start := tagStart text t.start
    let attributes := tagAttributes content
    let r := r.reportAttributes start attributes
    { r with opened := ⟨tagName content, soundAttributes attributes, start, []⟩ :: r.opened }
  | .empty content =>
    let start := tagStart text t.start
    let attributes := tagAttributes content
    (r.reportAttributes start attributes).attach
      { name := tagName content, attributes := soundAttributes attributes,
        span := some ⟨start, t.stop⟩ }
  | .closing name => r.closeNamed (String.ofList name) (tagStart text t.start) t.stop
  | .text raw =>
    match Entity.unescape raw with
    | .ok s => r.addText s
    | .error cause => r.report (.unreadableText cause) (some t.start)
  | .characterData content => r.addText (String.ofList content)
  | .aside => r
  | .namelessDoctype => r.report .namelessDoctype (some (t.stop - 1))
  | .broken fault => r.report (.stopped fault) (some t.stop)

/-- Ends every open element at the end of the text. -/
def closeAll (r : Reading) (stop : Nat) : Nat → Reading
  | 0 => r
  | n + 1 => (r.closeInnermost stop).closeAll stop n

end Reading

/-- Whether the tokens end where reading stopped. -/
def isStopped (tokens : List Located) : Bool :=
  match tokens.getLast? with
  | some ⟨.broken _, _, _⟩ => true
  | _ => false

/-- The characters to be read: a byte order mark at the beginning is left out, and offsets are
counted from what follows it. -/
def withoutMark : List Char → List Char
  | [] => []
  | c :: cs => if c = Char.ofNat 0xFEFF then cs else c :: cs

/-- The tree of a text, if it has one, and the issues met while reading it. -/
def read (text : String) : Option Element × List Issue :=
  let cs := text.toList
  let size := Text.byteSize cs
  let tokens := scan 0 (withoutMark cs)
  let r := tokens.foldl (Reading.step cs) {}
  let unclosed := r.opened.length
  let r :=
    if isStopped tokens ∨ unclosed = 0 then r else r.report (.neverClosed unclosed) (some size)
  let r := r.closeAll size unclosed
  let r := if r.root.isNone ∧ r.issues = [] then r.report .noRoot none else r
  (r.root, r.issues)

/-- The tree of a named document and the entries that reading it adds to a report. -/
def parse (text document : String) : Option Element × List Diagnostic :=
  let (root, issues) := read text
  (root, issues.map (Issue.diagnostic document text))

end IntegrationFlow.Xml
