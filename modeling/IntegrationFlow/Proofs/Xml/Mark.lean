import Mathlib
import IntegrationFlow.Proofs.List
import IntegrationFlow.Proofs.Xml.Nesting
import IntegrationFlow.Proofs.Xml.RoundTrip
import IntegrationFlow.Proofs.Xml.Span
import IntegrationFlow.Source.Document

/-!
# Byte order marks

A text with a byte order mark has the tokens of the text without it, at the same offsets: these are
counted from behind the mark, while places are looked up in the whole text. So both are read into the
same tree with the same faults, but for places. The place of an element is the one it should be,
three bytes further on, only if no tag closes it and no other tag is mistaken for its own.
-/

namespace IntegrationFlow.Xml

open Text

/-- The byte order mark. -/
def byteOrderMark : Char := Char.ofNat 0xFEFF

/-- A text with a byte order mark at its beginning. -/
def marked (text : String) : String := String.ofList (byteOrderMark :: text.toList)

/-! ### Shifted trees -/

/-- A range `n` bytes further on. -/
def Span.shift (n : ℕ) (span : Span) : Span := ⟨span.start + n, span.stop + n⟩

mutual

/-- A tree with all places `n` bytes further on. -/
def Element.shift (n : ℕ) : Element → Element
  | ⟨name, attributes, children, span⟩ =>
    ⟨name, attributes, shiftIn n children, span.map (Span.shift n)⟩

/-- A content with all places `n` bytes further on. -/
def shiftIn (n : ℕ) : List (Content Element) → List (Content Element)
  | [] => []
  | .text s :: cs => .text s :: shiftIn n cs
  | .element e :: cs => .element (e.shift n) :: shiftIn n cs

end

/-- An open element with all places `n` bytes further on. -/
def OpenElement.shift (n : ℕ) (o : OpenElement) : OpenElement :=
  { o with start := o.start + n, children := shiftIn n o.children }

section Shift

variable (n : ℕ)

@[simp] lemma shiftIn_nil : shiftIn n [] = [] := by simp [shiftIn]

@[simp] lemma shiftIn_text (s : String) (cs : List (Content Element)) :
    shiftIn n (.text s :: cs) = .text s :: shiftIn n cs := by
  simp [shiftIn]

@[simp] lemma shiftIn_element (e : Element) (cs : List (Content Element)) :
    shiftIn n (.element e :: cs) = .element (e.shift n) :: shiftIn n cs := by
  simp [shiftIn]

@[simp] lemma shiftIn_append (cs ds : List (Content Element)) :
    shiftIn n (cs ++ ds) = shiftIn n cs ++ shiftIn n ds := by
  induction cs with
  | nil => simp
  | cons c cs ih => cases c <;> simp [ih]

@[simp] lemma Element.span_shift (e : Element) : (e.shift n).span = e.span.map (Span.shift n) := by
  obtain ⟨name, attributes, children, span⟩ := e
  simp [Element.shift]

lemma OpenElement.close_shift (o : OpenElement) (stop : ℕ) :
    (o.shift n).close (stop + n) = (o.close stop).shift n := by
  simp [OpenElement.close, OpenElement.shift, Element.shift, Span.shift]

lemma OpenElement.close_injective (stop : ℕ) :
    Function.Injective fun o : OpenElement => o.close stop := by
  rintro ⟨name, attributes, start, children⟩ ⟨name', attributes', start', children'⟩ h
  simpa [OpenElement.close, and_assoc, and_comm, and_left_comm] using h

/-- What an open element holds is shifted if its last part and all before it are. -/
lemma OpenElement.concat_eq_shift_iff {o' o : OpenElement} {c' c : Content Element} :
    ({ o' with children := o'.children ++ [c'] } : OpenElement)
        = OpenElement.shift n { o with children := o.children ++ [c] } ↔
      o' = o.shift n ∧ [c'] = shiftIn n [c] := by
  obtain ⟨name', attributes', start', children'⟩ := o'
  cases c <;> simp [OpenElement.shift, and_assoc]

end Shift

/-! ### Two readings of the same tokens -/

/-- Two open elements agree but for places. -/
structure OpenElement.Alike (o' o : OpenElement) : Prop where
  name_eq : o'.name = o.name
  attributes_eq : o'.attributes = o.attributes
  children_eq : contentWithoutSpans o'.children = contentWithoutSpans o.children

lemma OpenElement.Alike.close {o' o : OpenElement} (h : o'.Alike o) (stop' stop : ℕ) :
    (o'.close stop').withoutSpans = (o.close stop).withoutSpans := by
  simp [OpenElement.close, Element.withoutSpans, h.name_eq, h.attributes_eq, h.children_eq]

lemma OpenElement.Alike.append {o' o : OpenElement} (h : o'.Alike o)
    {cs' cs : List (Content Element)} (hcs : contentWithoutSpans cs' = contentWithoutSpans cs) :
    OpenElement.Alike { o' with children := o'.children ++ cs' }
      { o with children := o.children ++ cs } :=
  ⟨h.name_eq, h.attributes_eq, by simp [h.children_eq, hcs]⟩

lemma name_eq_of_withoutSpans_eq {e' e : Element} (h : e'.withoutSpans = e.withoutSpans) :
    e'.name = e.name := by
  have hname (e : Element) : e.withoutSpans.name = e.name := by
    cases e
    simp [Element.withoutSpans]
  rw [← hname e', h, hname]

namespace Reading

/-- Two readings agree but for places. -/
structure Alike (r' r : Reading) : Prop where
  opened : List.Forall₂ OpenElement.Alike r'.opened r.opened
  root_eq : r'.root.map Element.withoutSpans = r.root.map Element.withoutSpans
  faults_eq : r'.issues.map Issue.fault = r.issues.map Issue.fault

variable {r' r : Reading}

/-- Both readings have open elements, or neither has. -/
lemma Alike.opened_cases (h : Alike r' r) :
    (r'.opened = [] ∧ r.opened = []) ∨
      ∃ o' os' o os, r'.opened = o' :: os' ∧ r.opened = o :: os ∧ o'.Alike o ∧
        List.Forall₂ OpenElement.Alike os' os := by
  have hopened := h.opened
  generalize r'.opened = os' at hopened ⊢
  generalize r.opened = os at hopened ⊢
  cases hopened with
  | nil => exact .inl ⟨rfl, rfl⟩
  | cons ho hos => exact .inr ⟨_, _, _, _, rfl, rfl, ho, hos⟩

namespace Alike

lemma report (h : Alike r' r) (fault : Fault) (offset' offset : Option ℕ) :
    Alike (r'.report fault offset') (r.report fault offset) :=
  ⟨h.opened, h.root_eq, by simp [Reading.report, h.faults_eq]⟩

lemma names_eq (h : Alike r' r) : r'.names = r.names :=
  map_eq_map_of_forall₂ (fun _ _ ho => ho.name_eq) h.opened

lemma root_eq_none_iff (h : Alike r' r) : r'.root = none ↔ r.root = none := by
  rw [← Option.map_eq_none_iff (f := Element.withoutSpans), h.root_eq, Option.map_eq_none_iff]

lemma attach (h : Alike r' r) {e' e : Element} (he : e'.withoutSpans = e.withoutSpans) :
    Alike (r'.attach e') (r.attach e) := by
  obtain ⟨hopened', hopened⟩ | ⟨o', os', o, os, hopened', hopened, ho, hos⟩ := h.opened_cases
  · simp only [Reading.attach, hopened', hopened]
    cases hroot : r.root with
    | none =>
      rw [h.root_eq_none_iff.mpr hroot]
      exact ⟨.nil, by simp [he], h.faults_eq⟩
    | some root =>
      obtain ⟨root', hroot'⟩ := Option.ne_none_iff_exists'.mp
        (mt h.root_eq_none_iff.mp (by simp [hroot]))
      rw [hroot', name_eq_of_withoutSpans_eq he]
      exact h.report _ _ _
  · simp only [Reading.attach, hopened', hopened]
    exact ⟨.cons (ho.append (by simp [he])) hos, h.root_eq, h.faults_eq⟩

lemma closeInnermost (h : Alike r' r) (stop' stop : ℕ) :
    Alike (r'.closeInnermost stop') (r.closeInnermost stop) := by
  obtain ⟨hopened', hopened⟩ | ⟨o', os', o, os, hopened', hopened, ho, hos⟩ := h.opened_cases
  · simpa only [Reading.closeInnermost, hopened', hopened] using h
  · simp only [Reading.closeInnermost, hopened', hopened]
    have hrest : Alike { r' with opened := os' } { r with opened := os } :=
      ⟨hos, h.root_eq, h.faults_eq⟩
    exact hrest.attach (ho.close stop' stop)

lemma closeImplicitly (h : Alike r' r) (stop' stop n : ℕ) :
    Alike (r'.closeImplicitly stop' n) (r.closeImplicitly stop n) := by
  induction n generalizing r' r with
  | zero => exact h
  | succ n ih =>
    have hname : r'.opened.head?.elim "" OpenElement.name
        = r.opened.head?.elim "" OpenElement.name := by
      obtain ⟨hopened', hopened⟩ | ⟨o', os', o, os, hopened', hopened, ho, -⟩ := h.opened_cases
      · rw [hopened', hopened]
      · simpa [hopened', hopened] using ho.name_eq
    rw [Reading.closeImplicitly, Reading.closeImplicitly, hname]
    exact ih ((h.report _ _ _).closeInnermost stop' stop)

lemma closeNamed (h : Alike r' r) (name : String) (start' start stop : ℕ) :
    Alike (r'.closeNamed name start' stop) (r.closeNamed name start stop) := by
  by_cases hmem : name ∈ r.names
  · obtain ⟨inner, outer, hnames, hinner, -, -⟩ := exists_innermost hmem
    rw [closeNamed_of_mem (h.names_eq.trans hnames) hinner, closeNamed_of_mem hnames hinner]
    exact (h.closeImplicitly _ _ _).closeInnermost _ _
  · rw [closeNamed_of_notMem (h.names_eq ▸ hmem), closeNamed_of_notMem hmem]
    exact h.report _ _ _

lemma addText (h : Alike r' r) (s : String) : Alike (r'.addText s) (r.addText s) := by
  obtain ⟨hopened', hopened⟩ | ⟨o', os', o, os, hopened', hopened, ho, hos⟩ := h.opened_cases
  · simpa only [Reading.addText, hopened', hopened] using h
  · simp only [Reading.addText, hopened', hopened]
    split
    · exact h
    · exact ⟨.cons (ho.append rfl) hos, h.root_eq, h.faults_eq⟩

lemma reportAttributes (h : Alike r' r) (start' start : ℕ)
    (attributes : List (Except Fault (String × String))) :
    Alike (r'.reportAttributes start' attributes) (r.reportAttributes start attributes) := by
  refine ⟨h.opened, h.root_eq, ?_⟩
  simp only [Reading.reportAttributes, List.map_append, h.faults_eq, List.map_filterMap]
  congr 2
  ext x
  cases x <;> rfl

lemma step (h : Alike r' r) (text' text : List Char) (l : Located) :
    Alike (r'.step text' l) (r.step text l) := by
  obtain ⟨token, start, stop⟩ := l
  cases token with
  | opening content =>
    have hread := h.reportAttributes (tagStart text' start) (tagStart text start)
      (tagAttributes content)
    exact ⟨.cons ⟨rfl, rfl, rfl⟩ hread.opened, hread.root_eq, hread.faults_eq⟩
  | empty content =>
    exact (h.reportAttributes _ _ _).attach (by simp [Element.withoutSpans])
  | closing name => exact h.closeNamed _ _ _ _
  | text raw =>
    simp only [Reading.step]
    split
    · exact h.addText _
    · exact h.report _ _ _
  | characterData content => exact h.addText _
  | aside => exact h
  | namelessDoctype => exact h.report _ _ _
  | broken fault => exact h.report _ _ _

lemma foldl_step (h : Alike r' r) (text' text : List Char) (tokens : List Located) :
    Alike (tokens.foldl (Reading.step text') r') (tokens.foldl (Reading.step text) r) := by
  induction tokens generalizing r' r with
  | nil => exact h
  | cons l tokens ih => exact ih (h.step text' text l)

lemma closeAll (h : Alike r' r) (stop' stop n : ℕ) :
    Alike (r'.closeAll stop' n) (r.closeAll stop n) := by
  induction n generalizing r' r with
  | zero => exact h
  | succ n ih => exact ih (h.closeInnermost stop' stop)

end Alike

/-! ### Readings at a shift -/

/-- All places in the open elements of `r'` are three bytes further on than in those of `r`, and no
element stands complete in no other. -/
structure Shifted (r' r : Reading) : Prop where
  opened_eq : r'.opened = r.opened.map (OpenElement.shift 3)
  no_root : r.root = none

/-- The byte at which an element ends. -/
def endOf? (e : Element) : Option ℕ := e.span.map Span.stop

lemma endOf?_shift (n : ℕ) (e : Element) : endOf? (e.shift n) = (endOf? e).map (· + n) := by
  simp [endOf?, Span.shift, Function.comp_def]

/-- An element that ends at the same byte in both readings is not shifted. -/
lemma not_shifted_attach (h : Alike r' r) {e' e : Element} (stop : ℕ)
    (he' : endOf? e' = some stop) (he : endOf? e = some stop) :
    ¬ Shifted (r'.attach e') (r.attach e) := by
  rintro ⟨heq, hroot⟩
  obtain ⟨hopened', hopened⟩ | ⟨o', os', o, os, hopened', hopened, -, -⟩ := h.opened_cases
  · simp only [Reading.attach, hopened] at hroot
    split at hroot <;> simp_all [Reading.report]
  · simp only [Reading.attach, hopened', hopened, List.map_cons, List.cons.injEq] at heq
    obtain ⟨-, hlast⟩ := (OpenElement.concat_eq_shift_iff 3).mp heq.1
    obtain rfl : e' = e.shift 3 := by simpa using hlast
    simp [endOf?_shift, he] at he'

lemma not_shifted_closeInnermost (h : Alike r' r) (hne : r.names ≠ []) (stop : ℕ) :
    ¬ Shifted (r'.closeInnermost stop) (r.closeInnermost stop) := by
  obtain ⟨-, hopened⟩ | ⟨o', os', o, os, hopened', hopened, -, hos⟩ := h.opened_cases
  · simp [names, hopened] at hne
  · simp only [Reading.closeInnermost, hopened', hopened]
    have hrest : Alike { r' with opened := os' } { r with opened := os } :=
      ⟨hos, h.root_eq, h.faults_eq⟩
    exact not_shifted_attach hrest stop rfl rfl

lemma shifted_report_iff {fault : Fault} {offset' offset : Option ℕ} :
    Shifted (r'.report fault offset') (r.report fault offset) ↔ Shifted r' r :=
  ⟨fun h => ⟨h.opened_eq, h.no_root⟩, fun h => ⟨h.opened_eq, h.no_root⟩⟩

/-- An end tag must not close anything. -/
lemma shifted_closeNamed_iff (h : Alike r' r) (name : String) (start' start stop : ℕ) :
    Shifted (r'.closeNamed name start' stop) (r.closeNamed name start stop) ↔
      Shifted r' r ∧ name ∉ r.names := by
  by_cases hmem : name ∈ r.names
  · obtain ⟨inner, outer, hnames, hinner, -, -⟩ := exists_innermost hmem
    rw [closeNamed_of_mem (h.names_eq.trans hnames) hinner, closeNamed_of_mem hnames hinner]
    have hne : (r.closeImplicitly start inner.length).names ≠ [] := by
      simp [names_closeImplicitly, hnames]
    simp [not_shifted_closeInnermost (h.closeImplicitly start' start _) hne, hmem]
  · rw [closeNamed_of_notMem (h.names_eq ▸ hmem), closeNamed_of_notMem hmem, shifted_report_iff]
    simp [hmem]

lemma shifted_addText_iff (h : Alike r' r) (s : String) :
    Shifted (r'.addText s) (r.addText s) ↔ Shifted r' r := by
  obtain ⟨hopened', hopened⟩ | ⟨o', os', o, os, hopened', hopened, -, -⟩ := h.opened_cases
  · simp only [Reading.addText, hopened', hopened]
  · simp only [Reading.addText, hopened', hopened]
    split
    · rfl
    · have hiff : ({ o' with children := o'.children ++ [.text s] } : OpenElement) :: os'
          = ({ o with children := o.children ++ [.text s] } :: os).map (OpenElement.shift 3) ↔
            o' :: os' = (o :: os).map (OpenElement.shift 3) := by
        rw [List.map_cons, List.cons.injEq, OpenElement.concat_eq_shift_iff]
        simp
      exact ⟨fun h => ⟨hopened' ▸ hopened ▸ hiff.mp h.opened_eq, h.no_root⟩,
        fun h => ⟨hiff.mpr (hopened' ▸ hopened ▸ h.opened_eq), h.no_root⟩⟩

/-- A token that keeps two readings at a shift: it closes no element, and a start tag is found where
it stands. -/
def Harmless (text' text : List Char) (opened : List String) (l : Located) : Prop :=
  match l.token with
  | .opening _ => tagStart text' l.start = tagStart text l.start + 3
  | .empty _ => False
  | .closing name => String.ofList name ∉ opened
  | _ => True

lemma shifted_step_iff (h : Alike r' r) (text' text : List Char) (l : Located) :
    Shifted (r'.step text' l) (r.step text l) ↔
      Shifted r' r ∧ Harmless text' text r.names l := by
  obtain ⟨token, start, stop⟩ := l
  cases token with
  | opening content =>
    have hiff : OpenElement.mk (tagName content) (soundAttributes (tagAttributes content))
          (tagStart text' start) [] :: r'.opened
        = (OpenElement.mk (tagName content) (soundAttributes (tagAttributes content))
          (tagStart text start) [] :: r.opened).map (OpenElement.shift 3) ↔
        tagStart text' start = tagStart text start + 3 ∧
          r'.opened = r.opened.map (OpenElement.shift 3) := by
      simp [OpenElement.shift]
    constructor
    · rintro ⟨heq, hroot⟩
      obtain ⟨hstart, hopened⟩ := hiff.mp heq
      exact ⟨⟨hopened, hroot⟩, hstart⟩
    · rintro ⟨⟨hopened, hroot⟩, hstart⟩
      exact ⟨hiff.mpr ⟨hstart, hopened⟩, hroot⟩
  | empty content =>
    simp only [Harmless, and_false, iff_false]
    exact not_shifted_attach (h.reportAttributes _ _ _) stop rfl rfl
  | closing name => exact shifted_closeNamed_iff h _ _ _ _
  | text raw =>
    simp only [Reading.step, Harmless, and_true]
    split
    · exact shifted_addText_iff h _
    · exact shifted_report_iff
  | characterData content => simpa [Reading.step, Harmless] using shifted_addText_iff h _
  | aside => simp [Reading.step, Harmless]
  | namelessDoctype => simpa [Reading.step, Harmless] using shifted_report_iff
  | broken fault => simpa [Reading.step, Harmless] using shifted_report_iff

/-- Tokens each of which is harmless where it comes. -/
def AllHarmless (text' text : List Char) : List String → List Located → Prop
  | _, [] => True
  | opened, l :: tokens =>
    Harmless text' text opened l ∧
      AllHarmless text' text (l.token.tag?.elim opened (Tag.next opened)) tokens

lemma shifted_foldl_step_iff (h : Alike r' r) (text' text : List Char) (tokens : List Located) :
    Shifted (tokens.foldl (Reading.step text') r') (tokens.foldl (Reading.step text) r) ↔
      Shifted r' r ∧ AllHarmless text' text r.names tokens := by
  induction tokens generalizing r' r with
  | nil => simp [AllHarmless]
  | cons l tokens ih =>
    rw [List.foldl_cons, List.foldl_cons, ih (h.step text' text l), shifted_step_iff h, names_step,
      AllHarmless, and_assoc]

/-! ### Roots that end at the same byte -/

/-- If both readings have a root, it ends at the same byte. -/
def SameEnd (r' r : Reading) : Prop :=
  ∀ root' ∈ r'.root, ∀ root ∈ r.root, ∃ stop, endOf? root' = some stop ∧ endOf? root = some stop

lemma SameEnd.attach (h : SameEnd r' r) (halike : Alike r' r) {e' e : Element} (stop : ℕ)
    (he' : endOf? e' = some stop) (he : endOf? e = some stop) :
    SameEnd (r'.attach e') (r.attach e) := by
  obtain ⟨hopened', hopened⟩ | ⟨o', os', o, os, hopened', hopened, -, -⟩ := halike.opened_cases
  · simp only [Reading.attach, hopened', hopened]
    cases hroot : r.root with
    | none =>
      rw [halike.root_eq_none_iff.mpr hroot]
      rintro _ ⟨⟩ _ ⟨⟩
      exact ⟨stop, he', he⟩
    | some root =>
      obtain ⟨root', hroot'⟩ := Option.ne_none_iff_exists'.mp
        (mt halike.root_eq_none_iff.mp (by simp [hroot]))
      rw [hroot']
      exact h
  · simp only [Reading.attach, hopened', hopened]
    exact h

lemma SameEnd.closeInnermost (h : SameEnd r' r) (halike : Alike r' r) (stop : ℕ) :
    SameEnd (r'.closeInnermost stop) (r.closeInnermost stop) := by
  obtain ⟨hopened', hopened⟩ | ⟨o', os', o, os, hopened', hopened, -, hos⟩ := halike.opened_cases
  · simpa only [Reading.closeInnermost, hopened', hopened] using h
  · simp only [Reading.closeInnermost, hopened', hopened]
    have hsame : SameEnd { r' with opened := os' } { r with opened := os } := h
    exact hsame.attach ⟨hos, halike.root_eq, halike.faults_eq⟩ stop rfl rfl

/-- An element that stands in another does not become the root. -/
lemma root_closeInnermost {name name' : String} {outer : List String}
    (hnames : r.names = name :: name' :: outer) (stop : ℕ) :
    (r.closeInnermost stop).root = r.root := by
  match hopened : r.opened with
  | [] => simp [names, hopened] at hnames
  | [o] => simp [names, hopened] at hnames
  | o :: o' :: os => simp only [Reading.closeInnermost, hopened, Reading.attach]

lemma root_closeImplicitly {name : String} {inner outer : List String}
    (hnames : r.names = inner ++ name :: outer) (stop : ℕ) :
    (r.closeImplicitly stop inner.length).root = r.root := by
  induction inner generalizing r with
  | nil => rfl
  | cons first inner ih =>
    obtain ⟨name', rest, hrest⟩ : ∃ name' rest, inner ++ name :: outer = name' :: rest :=
      List.exists_cons_of_ne_nil (by simp)
    have hfirst : r.names = first :: name' :: rest := by simp [hnames, hrest]
    rw [List.length_cons, Reading.closeImplicitly, ih (by simp [hnames])]
    exact root_closeInnermost (r := r.report _ _) hfirst stop

lemma SameEnd.closeNamed (h : SameEnd r' r) (halike : Alike r' r) (name : String)
    (start' start stop : ℕ) :
    SameEnd (r'.closeNamed name start' stop) (r.closeNamed name start stop) := by
  by_cases hmem : name ∈ r.names
  · obtain ⟨inner, outer, hnames, hinner, -, -⟩ := exists_innermost hmem
    have hnames' := halike.names_eq.trans hnames
    rw [closeNamed_of_mem hnames' hinner, closeNamed_of_mem hnames hinner]
    have hsame : SameEnd (r'.closeImplicitly start' inner.length)
        (r.closeImplicitly start inner.length) := by
      rw [SameEnd, root_closeImplicitly hnames', root_closeImplicitly hnames]
      exact h
    exact hsame.closeInnermost (halike.closeImplicitly _ _ _) stop
  · rw [closeNamed_of_notMem (halike.names_eq ▸ hmem), closeNamed_of_notMem hmem]
    exact h

lemma root_addText (r : Reading) (s : String) : (r.addText s).root = r.root := by
  rw [addText]
  split
  · rfl
  · split <;> rfl

lemma SameEnd.step (h : SameEnd r' r) (halike : Alike r' r) (text' text : List Char)
    (l : Located) : SameEnd (r'.step text' l) (r.step text l) := by
  obtain ⟨token, start, stop⟩ := l
  have htext (s : String) : SameEnd (r'.addText s) (r.addText s) := by
    rw [SameEnd, root_addText, root_addText]
    exact h
  cases token with
  | opening content => exact h
  | empty content =>
    have hread : SameEnd (r'.reportAttributes (tagStart text' start) (tagAttributes content))
        (r.reportAttributes (tagStart text start) (tagAttributes content)) := h
    exact hread.attach (halike.reportAttributes _ _ _) stop rfl rfl
  | closing name => exact h.closeNamed halike _ _ _ _
  | text raw =>
    simp only [Reading.step]
    split
    · exact htext _
    · exact h
  | characterData content => exact htext _
  | aside => exact h
  | namelessDoctype => exact h
  | broken fault => exact h

lemma SameEnd.foldl_step (h : SameEnd r' r) (halike : Alike r' r) (text' text : List Char)
    (tokens : List Located) :
    SameEnd (tokens.foldl (Reading.step text') r') (tokens.foldl (Reading.step text) r) := by
  induction tokens generalizing r' r with
  | nil => exact h
  | cons l tokens ih => exact ih (h.step halike text' text l) (halike.step text' text l)

/-! ### The end of the text -/

lemma root_closeAll_of_some {root : Element} (h : r.root = some root) (stop n : ℕ) :
    (r.closeAll stop n).root = some root := by
  induction n generalizing r with
  | zero => exact h
  | succ n ih =>
    refine ih ?_
    rw [closeInnermost]
    split
    · exact h
    · rw [Reading.attach]
      split
      · exact h
      · simp only [h, Reading.report]

/-- Elements that are left open end where the text does, and that is three bytes further on. -/
lemma root_closeAll_eq_iff_of_none (h : Alike r' r) (hroot : r.root = none) (size : ℕ) :
    (r'.closeAll (size + 3) r.opened.length).root
        = (r.closeAll size r.opened.length).root.map (Element.shift 3) ↔
      r'.opened = r.opened.map (OpenElement.shift 3) := by
  induction hn : r.opened.length generalizing r' r with
  | zero =>
    have hopened := List.length_eq_zero_iff.mp hn
    have hopened' : r'.opened = [] := by
      simpa [hopened] using h.opened
    simp [Reading.closeAll, hopened, hopened', hroot, h.root_eq_none_iff.mpr hroot]
  | succ n ih =>
    have hroot' := h.root_eq_none_iff.mpr hroot
    obtain ⟨-, hopened⟩ | ⟨o', os', o, os, hopened', hopened, ho, hos⟩ := h.opened_cases
    · simp [hopened] at hn
    · have hclosed := h.closeInnermost (size + 3) size
      have hlength : os.length = n := by simpa [hopened] using hn
      rw [Reading.closeAll, Reading.closeAll]
      cases hos with
      | nil =>
        obtain rfl : n = 0 := hlength.symm
        simp only [Reading.closeInnermost, hopened', hopened, Reading.attach, hroot', hroot,
          Reading.closeAll, Option.map_some, Option.some.injEq, ← OpenElement.close_shift,
          (OpenElement.close_injective _).eq_iff]
        simp
      | @cons p' p ps' ps hp hps =>
        have hnone : (r.closeInnermost size).root = none := by
          simp only [Reading.closeInnermost, hopened, Reading.attach, hroot]
        have hlength' : (r.closeInnermost size).opened.length = n := by
          simpa only [Reading.closeInnermost, hopened, Reading.attach, List.length_cons]
            using hlength
        rw [ih hclosed hnone hlength']
        simp only [Reading.closeInnermost, hopened', hopened, Reading.attach, List.map_cons,
          List.cons.injEq, OpenElement.concat_eq_shift_iff, shiftIn_element, shiftIn_nil,
          Content.element.injEq, ← OpenElement.close_shift, (OpenElement.close_injective _).eq_iff,
          and_true]
        tauto

lemma root_closeAll_eq_iff (h : Alike r' r) (hends : SameEnd r' r) (size : ℕ) :
    (r'.closeAll (size + 3) r.opened.length).root
        = (r.closeAll size r.opened.length).root.map (Element.shift 3) ↔ Shifted r' r := by
  cases hroot : r.root with
  | none =>
    rw [root_closeAll_eq_iff_of_none h hroot]
    exact ⟨fun hopened => ⟨hopened, hroot⟩, fun hshifted => hshifted.opened_eq⟩
  | some root =>
    obtain ⟨root', hroot'⟩ := Option.ne_none_iff_exists'.mp
      (mt h.root_eq_none_iff.mp (by simp [hroot]))
    obtain ⟨stop, hend', hend⟩ := hends root' hroot' root hroot
    rw [root_closeAll_of_some hroot', root_closeAll_of_some hroot]
    constructor
    · intro heq
      obtain rfl : root' = root.shift 3 := by simpa using heq
      simp [endOf?_shift, hend] at hend'
    · rintro ⟨-, hnone⟩
      simp [hnone] at hroot

end Reading

/-! ### Where a start tag is found -/

/-- The three bytes ahead of an offset hold whole characters, and no `<`; or there is nothing ahead
of it at all. -/
def ClearBefore (text : List Char) (offset : ℕ) : Prop :=
  offset = 0 ∨ ∃ before part after, text = before ++ part ++ after ∧
    byteSize (before ++ part) = offset ∧ byteSize part = 3 ∧ '<' ∉ part

lemma eq_nil_of_byteSize_eq_zero {cs : List Char} (h : byteSize cs = 0) : cs = [] := by
  cases cs with
  | nil => rfl
  | cons c cs =>
    have hpos := c.utf8Size_pos
    rw [byteSize] at h
    omega

/-- Of two beginnings of a text the one with fewer bytes begins the other. -/
lemma exists_append_of_byteSize_le {cs ds cs' ds' : List Char} (heq : cs ++ cs' = ds ++ ds')
    (h : byteSize cs ≤ byteSize ds) : ∃ part, ds = cs ++ part := by
  have hprefix : cs <+: ds ++ ds' := heq ▸ List.prefix_append ..
  rcases List.prefix_or_prefix_of_prefix hprefix (List.prefix_append ds ds') with
    ⟨part, hpart⟩ | ⟨part, hpart⟩
  · exact ⟨part, hpart.symm⟩
  · rw [← hpart, byteSize_append] at h
    obtain rfl := eq_nil_of_byteSize_eq_zero (show byteSize part = 0 by omega)
    exact ⟨[], by simpa using hpart⟩

lemma exists_of_dropBytes? {n : ℕ} {cs rest : List Char} (h : dropBytes? n cs = some rest) :
    ∃ before, cs = before ++ rest ∧ byteSize before = n := by
  induction cs generalizing n with
  | nil =>
    rw [dropBytes?] at h
    split at h
    · rename_i hn
      exact ⟨[], by simpa using h, hn.symm⟩
    · simp at h
  | cons c cs ih =>
    rw [dropBytes?] at h
    split at h
    · rename_i hn
      exact ⟨[], by simpa using h, hn.symm⟩
    · split at h
      · obtain ⟨before, rfl, hsize⟩ := ih h
        refine ⟨c :: before, rfl, ?_⟩
        rw [byteSize, hsize]
        omega
      · simp at h

lemma byteSize_mark (cs : List Char) : byteSize (byteOrderMark :: cs) = byteSize cs + 3 := by
  have hsize : byteOrderMark.utf8Size = 3 := by decide
  rw [byteSize, hsize, Nat.add_comm]

section TagStart

variable {before gap rest : List Char}

/-- Behind a mark, a tag is found in its place if there is no other before it. -/
lemma tagStart_mark_of_clearBefore (hgap : '<' ∉ gap)
    (h : ClearBefore (before ++ gap ++ '<' :: rest) (byteSize before)) :
    tagStart (byteOrderMark :: (before ++ gap ++ '<' :: rest)) (byteSize before)
      = byteSize (before ++ gap) + 3 := by
  obtain hzero | ⟨lead, part, after, htext, hsize, hpart, hclear⟩ := h
  · obtain rfl := eq_nil_of_byteSize_eq_zero hzero
    have hmark : '<' ∉ byteOrderMark :: gap := by
      simpa [hgap] using (by decide : '<' ≠ byteOrderMark)
    have hfound := tagStart_append [] hmark rest
    rwa [List.nil_append, byteSize_mark] at hfound
  · rw [List.append_assoc] at htext
    obtain ⟨more, hmore⟩ := exists_append_of_byteSize_le htext.symm hsize.le
    obtain rfl : more = [] := by
      have hsizes := congrArg byteSize hmore
      rw [byteSize_append, hsize] at hsizes
      exact eq_nil_of_byteSize_eq_zero (by omega)
    obtain rfl : before = lead ++ part := by simpa using hmore
    have hfound := tagStart_append (byteOrderMark :: lead)
      (show '<' ∉ part ++ gap by simp [hclear, hgap]) rest
    have hoffset : byteSize (byteOrderMark :: lead) = byteSize (lead ++ part) := by
      rw [byteSize_mark, byteSize_append, hpart]
    rw [hoffset, List.cons_append, byteSize_mark] at hfound
    simpa using hfound

/-- If a tag is found in its place behind a mark, there is no other before it. -/
lemma clearBefore_of_tagStart_mark
    (h : tagStart (byteOrderMark :: (before ++ gap ++ '<' :: rest)) (byteSize before)
      = byteSize (before ++ gap) + 3) :
    ClearBefore (before ++ gap ++ '<' :: rest) (byteSize before) := by
  by_cases hzero : byteSize before = 0
  · exact .inl hzero
  · have hgap := byteSize_append before gap
    cases hdrop : dropBytes? (byteSize before) (byteOrderMark :: (before ++ gap ++ '<' :: rest)) with
    | none =>
      simp only [tagStart, hdrop] at h
      omega
    | some tail =>
      obtain ⟨head, htext, hhead⟩ := exists_of_dropBytes? hdrop
      cases head with
      | nil => exact absurd hhead.symm hzero
      | cons c lead =>
        obtain ⟨rfl, hlead⟩ := List.cons.inj htext
        rw [byteSize_mark] at hhead
        rw [List.append_assoc] at hlead
        have hle : byteSize lead ≤ byteSize before := by omega
        obtain ⟨part, rfl⟩ := exists_append_of_byteSize_le hlead.symm hle
        have hpart : byteSize part = 3 := by
          rw [byteSize_append] at hhead
          omega
        refine .inr ⟨lead, part, gap ++ '<' :: rest, by simp, rfl, hpart, fun hmem => ?_⟩
        -- the first `<` of the three bytes would be found before the tag
        obtain ⟨first, more, rfl, hfirst⟩ := List.eq_append_cons_of_mem hmem
        have hfound := tagStart_append (byteOrderMark :: lead) hfirst (more ++ gap ++ '<' :: rest)
        have htext : byteOrderMark :: lead ++ first ++ '<' :: (more ++ gap ++ '<' :: rest)
            = byteOrderMark :: (lead ++ (first ++ '<' :: more) ++ gap ++ '<' :: rest) := by simp
        rw [byteSize_mark, hhead, htext, h, List.cons_append, byteSize_mark] at hfound
        simp only [byteSize_append, byteSize] at hpart hfound
        have hpos := '<'.utf8Size_pos
        omega

end TagStart

lemma tagStart_mark_eq_iff {text : List Char} {before gap rest : List Char}
    (htext : text = before ++ gap ++ '<' :: rest) (hgap : ∀ c ∈ gap, isMarkupSpace c) :
    tagStart (byteOrderMark :: text) (byteSize before) = tagStart text (byteSize before) + 3 ↔
      ClearBefore text (byteSize before) := by
  subst htext
  rw [tagStart_eq before hgap]
  exact ⟨clearBefore_of_tagStart_mark,
    tagStart_mark_of_clearBefore (notMem_of_isMarkupSpace hgap)⟩

/-- A start tag stands after white space where its token begins. -/
lemma exists_of_mem_scan {text seen cs : List Char} (htext : text = seen ++ cs) {l : Located}
    (hl : l ∈ scan (byteSize seen) cs) {content : List Char} (htoken : l.token = .opening content) :
    ∃ before gap rest, text = before ++ gap ++ '<' :: rest ∧ byteSize before = l.start ∧
      ∀ c ∈ gap, isMarkupSpace c := by
  generalize hoffset : byteSize seen = offset at *
  fun_induction scan offset cs generalizing seen with
  | case1 offset cs hlex => simp at hl
  | case2 offset cs m hlex ih =>
    subst hoffset
    rcases exists_of_lex? hlex with ⟨⟨fault, hbroken⟩, hrest⟩ | ⟨gap, part, hcs, hgap, hwidth, hcut⟩
    · have hnone : scan (byteSize seen + m.width) m.rest = [] := by
        rw [hrest, scan]
        rfl
      rw [hnone, List.mem_singleton] at hl
      subst hl
      simp [hbroken] at htoken
    · rcases List.mem_cons.mp hl with rfl | hl
      · simp only at htoken
        rw [htoken] at hcut
        obtain rfl : part = '<' :: (content ++ ['>']) := hcut
        exact ⟨seen, gap, content ++ ['>'] ++ m.rest, by simp [htext, hcs], rfl, hgap⟩
      · have hparts : text = seen ++ gap ++ part ++ m.rest := by simp [htext, hcs]
        have hsize : byteSize (seen ++ gap ++ part) = byteSize seen + m.width := by
          rw [List.append_assoc, byteSize_append seen, hwidth]
        exact ih hparts hsize hl

/-! ### Tags that close nothing -/

/-- Tags none of which closes an element, be it one that they begin or one that was open before. -/
structure CloseNothing (opened : List String) (tags : List Tag) : Prop where
  no_empty : ∀ name, Tag.empty name ∉ tags
  no_end : ∀ name, ¬ [Tag.opening name, Tag.closing name].Sublist tags
  no_outer_end : ∀ name ∈ opened, Tag.closing name ∉ tags

section CloseNothing

variable {opened : List String} {tags : List Tag} {name : String}

lemma closeNothing_opening_iff :
    CloseNothing opened (.opening name :: tags) ↔ CloseNothing (name :: opened) tags := by
  constructor
  · intro h
    refine ⟨fun x hx => h.no_empty x (List.mem_cons_of_mem _ hx),
      fun x hx => h.no_end x (hx.cons _), ?_⟩
    intro x hx hmem
    rcases List.mem_cons.mp hx with rfl | hx
    · exact h.no_end x (List.Sublist.cons_cons _ (List.singleton_sublist.mpr hmem))
    · exact h.no_outer_end x hx (List.mem_cons_of_mem _ hmem)
  · intro h
    refine ⟨fun x hx => h.no_empty x (by simpa using hx), ?_, ?_⟩
    · intro x hx
      cases hx with
      | cons _ hx => exact h.no_end x hx
      | cons_cons _ hx => exact h.no_outer_end name (by simp) (List.singleton_sublist.mp hx)
    · intro x hx hmem
      exact h.no_outer_end x (List.mem_cons_of_mem _ hx) (by simpa using hmem)

lemma closeNothing_closing_iff :
    CloseNothing opened (.closing name :: tags) ↔ name ∉ opened ∧ CloseNothing opened tags := by
  constructor
  · intro h
    exact ⟨fun hname => h.no_outer_end name hname (by simp),
      fun x hx => h.no_empty x (List.mem_cons_of_mem _ hx), fun x hx => h.no_end x (hx.cons _),
      fun x hx hmem => h.no_outer_end x hx (List.mem_cons_of_mem _ hmem)⟩
  · rintro ⟨hname, h⟩
    refine ⟨fun x hx => h.no_empty x (by simpa using hx), ?_, ?_⟩
    · intro x hx
      cases hx with
      | cons _ hx => exact h.no_end x hx
    · intro x hx hmem
      rcases List.mem_cons.mp hmem with heq | hmem
      · obtain rfl : x = name := by simpa using heq
        exact hname hx
      · exact h.no_outer_end x hx hmem

end CloseNothing

/-- Tokens are harmless if they close nothing and every start tag is found where it stands. -/
lemma allHarmless_iff {text : List Char} {tokens : List Located} {opened : List String}
    (hfound : ∀ l ∈ tokens, ∀ content, l.token = .opening content →
      (tagStart (byteOrderMark :: text) l.start = tagStart text l.start + 3 ↔
        ClearBefore text l.start)) :
    Reading.AllHarmless (byteOrderMark :: text) text opened tokens ↔
      CloseNothing opened (tagsAmong tokens) ∧
        ∀ l ∈ tokens, ∀ content, l.token = .opening content → ClearBefore text l.start := by
  induction tokens generalizing opened with
  | nil => simpa [Reading.AllHarmless, tagsAmong] using ⟨by simp, by simp, by simp⟩
  | cons l tokens ih =>
    obtain ⟨hl, htokens⟩ := List.forall_mem_cons.mp hfound
    rw [Reading.AllHarmless, ih htokens, List.forall_mem_cons, tagsAmong_cons]
    obtain ⟨token, start, stop⟩ := l
    cases token with
    | opening content =>
      simp only [Reading.Harmless, Token.tag?, Option.elim_some, Tag.next, hl content rfl,
        Option.toList_some, List.singleton_append, closeNothing_opening_iff, Token.opening.injEq,
        forall_eq']
      tauto
    | empty content =>
      have hempty : ¬ CloseNothing opened (.empty (tagName content) :: tagsAmong tokens) :=
        fun h => h.no_empty (tagName content) (by simp)
      simp [Reading.Harmless, Token.tag?, hempty]
    | closing name =>
      by_cases hname : String.ofList name ∈ opened
      · simp [Reading.Harmless, Token.tag?, closeNothing_closing_iff, hname]
      · simp [Reading.Harmless, Token.tag?, closeNothing_closing_iff, hname,
          next_of_notMem hname]
    | text raw => simp [Reading.Harmless, Token.tag?]
    | characterData content => simp [Reading.Harmless, Token.tag?]
    | aside => simp [Reading.Harmless, Token.tag?]
    | namelessDoctype => simp [Reading.Harmless, Token.tag?]
    | broken fault => simp [Reading.Harmless, Token.tag?]

/-! ### The whole text -/

section Read

variable {text : String}

lemma toList_marked (text : String) : (marked text).toList = byteOrderMark :: text.toList := by
  simp [marked]

/-- A mark adds no token and moves none. -/
lemma tokensOf_marked (hmark : text.toList.head? ≠ some byteOrderMark) :
    tokensOf (marked text) = tokensOf text := by
  rw [tokensOf, tokensOf, toList_marked, withoutMark_eq_self hmark]
  rfl

lemma byteSize_marked (text : String) :
    byteSize (marked text).toList = byteSize text.toList + 3 := by
  rw [toList_marked, byteSize_mark]

lemma Reading.Alike.reportOpen {r' r : Reading} (h : r'.Alike r) (stopped : Bool)
    (size' size : ℕ) : (r'.reportOpen stopped size').Alike (r.reportOpen stopped size) := by
  rw [Reading.reportOpen, Reading.reportOpen, h.opened.length_eq]
  split
  · exact h
  · exact h.report _ _ _

lemma Reading.Alike.finish {r' r : Reading} (h : r'.Alike r) (stopped : Bool) (size' size : ℕ) :
    (r'.finish stopped size').Alike (r.finish stopped size) := by
  have hclosed := (h.reportOpen stopped size' size).closeAll size' size r.opened.length
  rw [Reading.finish, Reading.finish, h.opened.length_eq]
  generalize (r'.reportOpen stopped size').closeAll size' r.opened.length = c' at hclosed ⊢
  generalize (r.reportOpen stopped size).closeAll size r.opened.length = c at hclosed ⊢
  have hissues : c'.issues = [] ↔ c.issues = [] := by
    rw [← List.map_eq_nil_iff (f := Issue.fault), hclosed.faults_eq, List.map_eq_nil_iff]
  have hiff : (c'.root.isNone ∧ c'.issues = []) ↔ (c.root.isNone ∧ c.issues = []) := by
    rw [Option.isNone_iff_eq_none, Option.isNone_iff_eq_none, hclosed.root_eq_none_iff, hissues]
  rw [Reading.reportRootless, Reading.reportRootless]
  by_cases hsilent : c.root.isNone ∧ c.issues = []
  · rw [if_pos (hiff.mpr hsilent), if_pos hsilent]
    exact hclosed.report _ _ _
  · rw [if_neg (mt hiff.mp hsilent), if_neg hsilent]
    exact hclosed

lemma Reading.root_reportOpen (r : Reading) (stopped : Bool) (size : ℕ) :
    (r.reportOpen stopped size).root = r.root := by
  rw [Reading.reportOpen]
  split <;> rfl

lemma Reading.root_finish (r : Reading) (stopped : Bool) (size : ℕ) :
    (r.finish stopped size).root
      = ((r.reportOpen stopped size).closeAll size r.opened.length).root := by
  rw [Reading.finish, Reading.reportRootless]
  split <;> rfl

/-- At the end of the text nothing is closed that would not be at a shift. -/
lemma Reading.root_finish_eq_iff {r' r : Reading} (h : r'.Alike r) (hends : r'.SameEnd r)
    (stopped : Bool) (size : ℕ) :
    (r'.finish stopped (size + 3)).root
        = (r.finish stopped size).root.map (Element.shift 3) ↔ r'.Shifted r := by
  have hends' : (r'.reportOpen stopped (size + 3)).SameEnd (r.reportOpen stopped size) := by
    rwa [SameEnd, root_reportOpen, root_reportOpen]
  have hiff := root_closeAll_eq_iff (h.reportOpen stopped (size + 3) size) hends' size
  rw [opened_reportOpen] at hiff
  rw [root_finish, root_finish, h.opened.length_eq, hiff]
  constructor
  · rintro ⟨hopened, hroot⟩
    rw [opened_reportOpen, opened_reportOpen] at hopened
    exact ⟨hopened, (root_reportOpen ..).symm.trans hroot⟩
  · rintro ⟨hopened, hroot⟩
    refine ⟨?_, (root_reportOpen ..).trans hroot⟩
    rwa [opened_reportOpen, opened_reportOpen]

/-- What is read of a text with and without a mark agrees but for places. -/
lemma alike_tokensRead (hmark : text.toList.head? ≠ some byteOrderMark) :
    (tokensRead (marked text)).Alike (tokensRead text) := by
  rw [tokensRead, tokensRead, tokensOf_marked hmark]
  have hempty : ({} : Reading).Alike {} := ⟨.nil, rfl, rfl⟩
  exact hempty.foldl_step _ _ _

/-- The tree of a text with a mark is that of the text without it at a shift exactly if no token
disturbs it. -/
lemma read_marked_eq_shift_iff (hmark : text.toList.head? ≠ some byteOrderMark) :
    (read (marked text)).1 = (read text).1.map (Element.shift 3) ↔
      Reading.AllHarmless (byteOrderMark :: text.toList) text.toList [] (tokensOf text) := by
  have hempty : ({} : Reading).Alike {} := ⟨.nil, rfl, rfl⟩
  have hends : (tokensRead (marked text)).SameEnd (tokensRead text) := by
    rw [tokensRead, tokensRead, tokensOf_marked hmark]
    have hnone : ({} : Reading).SameEnd {} := by rintro _ ⟨⟩
    exact hnone.foldl_step hempty _ _ _
  have hshifted := Reading.shifted_foldl_step_iff hempty (marked text).toList text.toList
    (tokensOf text)
  rw [read_eq, read_eq, allRead, allRead, tokensOf_marked hmark, byteSize_marked,
    Reading.root_finish_eq_iff (alike_tokensRead hmark) hends, tokensRead, tokensRead,
    tokensOf_marked hmark, hshifted, toList_marked]
  exact ⟨And.right, fun h => ⟨⟨rfl, rfl⟩, h⟩⟩

/-- The same piece is cut out behind a mark at a shift. -/
lemma slice_marked (text : String) (start stop : ℕ) :
    slice (marked text) (start + 3) (stop + 3) = slice text start stop := by
  have hsize : byteOrderMark.utf8Size = 3 := by decide
  have hdrop : dropBytes? (start + 3) (marked text).toList = dropBytes? start text.toList := by
    rw [toList_marked, dropBytes?, if_neg (by omega), hsize, if_pos (by omega),
      Nat.add_sub_cancel]
  rw [slice, slice, hdrop, Nat.add_sub_add_right]
  simp only [Nat.add_le_add_iff_right]

lemma raw_shift_marked (text document : String) (e : Element) :
    SourceText.raw ⟨document, marked text⟩ (e.shift 3) = SourceText.raw ⟨document, text⟩ e := by
  simp only [SourceText.raw, Element.span_shift]
  cases e.span with
  | none => rfl
  | some span => exact slice_marked text span.start span.stop

end Read

/-- A text with a byte order mark and the text without it are read into the same tree with the same
faults, but for places. The places are three bytes further on, and so the pieces of text that
elements were read from are the same, exactly if no tag closes an element, neither its own nor
another, and the place that is reached before each start tag, where the token ahead of it ends, is
the beginning of the text or has three bytes of whole characters ahead of it, with no `<` among
them. White space between that token and the tag does not count. -/
theorem mark_shifts_tree_iff (text document : String)
    (hmark : text.toList.head? ≠ some byteOrderMark) :
    (parse (marked text) document).1.map Element.withoutSpans
        = (parse text document).1.map Element.withoutSpans ∧
      (read (marked text)).2.map Issue.fault = (read text).2.map Issue.fault ∧
      ((parse (marked text) document).1 = (parse text document).1.map (Element.shift 3) ↔
        (∀ name, Tag.empty name ∉ tagsIn text ∧
          ¬ [Tag.opening name, Tag.closing name].Sublist (tagsIn text)) ∧
        ∀ l ∈ tokensOf text, ∀ content, l.token = .opening content →
          ClearBefore text.toList l.start) ∧
      ∀ e : Element,
        SourceText.raw ⟨document, marked text⟩ (e.shift 3) = SourceText.raw ⟨document, text⟩ e := by
  have halike := (alike_tokensRead hmark).finish (isStopped (tokensOf text))
    (byteSize (marked text).toList) (byteSize text.toList)
  nth_rewrite 1 [← tokensOf_marked hmark] at halike
  have hfound : ∀ l ∈ tokensOf text, ∀ content, l.token = .opening content →
      (tagStart (byteOrderMark :: text.toList) l.start = tagStart text.toList l.start + 3 ↔
        ClearBefore text.toList l.start) := by
    intro l hl content htoken
    rw [tokensOf, withoutMark_eq_self hmark] at hl
    obtain ⟨before, gap, rest, htext, hstart, hgap⟩ :=
      exists_of_mem_scan (List.nil_append text.toList).symm hl htoken
    rw [← hstart]
    exact tagStart_mark_eq_iff htext hgap
  refine ⟨halike.root_eq, halike.faults_eq, ?_, raw_shift_marked text document⟩
  change (read (marked text)).1 = (read text).1.map (Element.shift 3) ↔ _
  rw [read_marked_eq_shift_iff hmark, allHarmless_iff hfound]
  refine and_congr_left fun _ => ⟨fun h name => ⟨h.no_empty name, h.no_end name⟩, fun h => ?_⟩
  exact ⟨fun name => (h name).1, fun name => (h name).2, by simp⟩

/-- A text with two start tags and an end tag that closes nothing. -/
def openText : String := "<order>é</x><item>"

theorem openText_shifted : openText.toList.head? ≠ some byteOrderMark ∧
    (tokensRead openText).opened.map OpenElement.start = [13, 0] ∧
    (parse (marked openText) "a.xml").1 = (parse openText "a.xml").1.map (Element.shift 3) := by
  have hmark : openText.toList.head? ≠ some byteOrderMark := by decide +kernel
  have htags : tagsIn openText = [.opening "order", .closing "x", .opening "item"] := by cbv
  have htokens : tokensOf openText = [⟨.opening "order".toList, 0, 7⟩, ⟨.text ['é'], 7, 9⟩,
      ⟨.closing ['x'], 9, 13⟩, ⟨.opening "item".toList, 13, 19⟩] := by cbv
  obtain ⟨-, -, hiff, -⟩ := mark_shifts_tree_iff openText "a.xml" hmark
  refine ⟨hmark, by cbv, hiff.mpr ⟨?_, ?_⟩⟩
  · intro name
    refine ⟨by simp [htags], fun hsublist => ?_⟩
    have hmem := hsublist.subset
    simp only [htags, List.cons_subset, List.mem_cons, Tag.opening.injEq, Tag.closing.injEq,
      reduceCtorEq, false_or, or_false, List.not_mem_nil] at hmem
    obtain ⟨rfl | rfl, hend, -⟩ := hmem
    · exact absurd hend (by decide)
    · exact absurd hend (by decide)
  · rw [htokens]
    simp only [List.forall_mem_cons, List.not_mem_nil, false_implies, implies_true, and_true,
      reduceCtorEq, true_and]
    refine ⟨fun _ _ => .inl rfl, fun _ _ => .inr ⟨"<order>é<".toList, "/x>".toList,
      "<item>".toList, ?_⟩⟩
    decide +kernel

/-- A text in which an empty element is read as a step. -/
def closedText : String := "<FLOW><MAP/></FLOW>"

/-- The tree of this text, with the places of the root and of the step. -/
def closedTree (outer inner : Span) : Element :=
  { name := "FLOW", children := [.element { name := "MAP", span := some inner }],
    span := some outer }

lemma parse_closedText : parse closedText "a.xml" = (some (closedTree ⟨0, 19⟩ ⟨6, 12⟩), []) := by
  have hread : tokensRead closedText = { root := some (closedTree ⟨0, 19⟩ ⟨6, 12⟩) } := by cbv
  have hstop : isStopped (tokensOf closedText) = false := by cbv
  rw [parse, read_eq, allRead, hread, hstop]
  rfl

/-- Behind a mark the elements begin where they should, but their ends are three bytes short. -/
lemma parse_marked_closedText :
    parse (marked closedText) "a.xml" = (some (closedTree ⟨3, 19⟩ ⟨9, 12⟩), []) := by
  have hread : tokensRead (marked closedText) = { root := some (closedTree ⟨3, 19⟩ ⟨9, 12⟩) } := by
    cbv
  have hstop : isStopped (tokensOf (marked closedText)) = false := by cbv
  rw [parse, read_eq, allRead, hread, hstop]
  rfl

theorem closedText_not_shifted :
    closedText.toList.head? ≠ some byteOrderMark ∧
    (parse (marked closedText) "a.xml").1 ≠ (parse closedText "a.xml").1.map (Element.shift 3) ∧
    (Source.readText ⟨"a.xml", .webMethods, bytesOf closedText⟩ closedText).records.map
      Record.rawContent = ["", "<MAP/>", ""] ∧
    (Source.readText ⟨"a.xml", .webMethods, bytesOf (marked closedText)⟩
      (marked closedText)).records.map Record.rawContent = ["", "<MA", ""] := by
  refine ⟨by decide +kernel, ?_, ?_, ?_⟩
  · rw [parse_closedText, parse_marked_closedText]
    simp [closedTree, Element.shift, Span.shift]
  · simp only [Source.readText, parse_closedText]
    decide +kernel
  · simp only [Source.readText, parse_marked_closedText]
    decide +kernel

end IntegrationFlow.Xml
