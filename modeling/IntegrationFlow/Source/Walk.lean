import IntegrationFlow.Diagnostic
import IntegrationFlow.Record
import IntegrationFlow.Xml.Document

/-!
# Walking a document

While a document is walked, records are emitted and links are laid between them. A run of steps is
known by its entry and by its loose ends, which are tied to whatever comes next.
-/

namespace IntegrationFlow

open Xml (Element)

/-! ### Places in a document -/

/-- A document by name, with its text. -/
structure SourceText where
  document : String
  text : String

namespace SourceText

/-- The piece of text that an element was read from. -/
def raw (s : SourceText) (e : Element) : String :=
  match e.span with
  | some span => Text.slice s.text span.start span.stop
  | none => ""

/-- The place where an element begins. -/
def place (s : SourceText) (e : Element) : String :=
  Xml.location s.document s.text (e.span.elim 0 Xml.Span.start)

/-- A warning about an element. -/
def warning (s : SourceText) (e : Element) (message : String) : Diagnostic :=
  .parseError .warning message (some (s.place e))

end SourceText

namespace Source

/-! ### Runs of steps -/

/-- A loose end: the record that control leaves from, and the condition under which it does. -/
structure Exit where
  source : String
  condition : Option String := none
  deriving DecidableEq, Repr

/-- A run of steps. One without an entry is empty. -/
structure Fragment where
  entry : Option String := none
  exits : List Exit := []
  deriving DecidableEq, Repr

/-- A single step. -/
def Fragment.single (id : String) : Fragment := ⟨some id, [⟨id, none⟩]⟩

/-- A step that ends the flow. -/
def Fragment.terminal (id : String) : Fragment := ⟨some id, []⟩

/-! ### The state of a walk -/

/-- What has been found so far, in order. -/
structure Walk where
  /-- The number of the next record. -/
  next : Nat := 0
  records : List Record := []
  /-- Links with the ids of the records they start from. -/
  links : List (String × Link) := []
  issues : List Diagnostic := []

namespace Walk

/-- Adds a record. -/
def emit (w : Walk) (r : Record) : Walk := { w with records := w.records ++ [r] }

/-- Counts one record. -/
def advance (w : Walk) : Walk := { w with next := w.next + 1 }

/-- Adds a link. -/
def link (w : Walk) (source target : String) (kind : EdgeKind := .sequence)
    (condition : Option String := none) : Walk :=
  { w with links := w.links ++ [(source, ⟨target, kind, condition⟩)] }

/-- Ties loose ends to a record. -/
def connect (w : Walk) (exits : List Exit) (target : String) : Walk :=
  exits.foldl (fun w e => w.link e.source target .sequence e.condition) w

/-- Adds a warning. -/
def warn (w : Walk) (d : Diagnostic) : Walk := { w with issues := w.issues ++ [d] }

/-- One run after another: the loose ends of the first are tied to the entry of the second. -/
def join (w : Walk) (a b : Fragment) : Fragment × Walk :=
  match a.entry, b.entry with
  | none, _ => (b, w)
  | some _, none => (a, w)
  | some entry, some target => (⟨some entry, b.exits⟩, w.connect a.exits target)

/-- Several runs one after another. -/
def sequence (w : Walk) (fragments : List Fragment) : Fragment × Walk :=
  fragments.foldl (fun (a, w) b => w.join a b) ({}, w)

/-- The records with their links. -/
def finish (w : Walk) : List Record :=
  w.records.map fun r =>
    { r with links := (w.links.filter fun l => l.1 == r.id).map (·.2) }

end Walk

end Source

end IntegrationFlow
