import Mathlib
import IntegrationFlow.Proofs.List
import IntegrationFlow.Proofs.Xml.RoundTrip

/-!
# What is seen of a tree that was read back

A tree that was written and read back is looked at through its tag, its child elements and its
text. The tag is the same, the child elements correspond one by one, and the text of an element
that holds nothing else is the same, since white space around it does not count.
-/

namespace IntegrationFlow.Xml

/-- `e'` is what comes back when `e` is written and read. -/
def Reread (e e' : Element) : Prop := e'.withoutSpans = e.settle

/-! ### Texts -/

/-- The texts of a content, without the elements. -/
def textsIn (cs : List (Content Element)) : List String :=
  cs.filterMap fun
    | .element _ => none
    | .text s => some s

@[simp] lemma textsIn_nil : textsIn [] = [] := rfl

@[simp] lemma textsIn_element (e : Element) (cs : List (Content Element)) :
    textsIn (.element e :: cs) = textsIn cs := rfl

@[simp] lemma textsIn_text (s : String) (cs : List (Content Element)) :
    textsIn (.text s :: cs) = s :: textsIn cs := rfl

lemma Element.text_eq (e : Element) : e.text = Text.trim (String.join (textsIn e.children)) := rfl

@[simp] lemma textsIn_contentWithoutSpans (cs : List (Content Element)) :
    textsIn (contentWithoutSpans cs) = textsIn cs := by
  induction cs with
  | nil => simp
  | cons c cs ih => cases c <;> simp [ih]

/-- A content of texts is read back as one text. -/
lemma settleContent_of_elementsIn_eq_nil {cs : List (Content Element)} (h : elementsIn cs = [])
    (run : String) : settleContent run cs = settleText (run ++ String.join (textsIn cs)) := by
  induction cs generalizing run with
  | nil => simp
  | cons c cs ih =>
    cases c with
    | element e => simp at h
    | text s =>
      rw [settleContent_text, ih (by simpa using h), textsIn_text, String.join_cons,
        String.append_assoc]

lemma isSpace_of_isMarkupSpace {c : Char} (h : isMarkupSpace c) : Text.isSpace c := by
  simp only [isMarkupSpace, Bool.or_eq_true, beq_iff_eq] at h
  rcases h with ((rfl | rfl) | rfl) | rfl <;> decide

/-- Trimming takes more than reading does. -/
lemma trim_strip (s : String) : Text.trim (strip s) = Text.trim s := by
  rw [Text.trim, strip, String.toList_ofList,
    Text.trimBy_trimBy_of_imp fun c => isSpace_of_isMarkupSpace, Text.trim]

lemma trim_join_textsIn_settleText (run : String) :
    Text.trim (String.join (textsIn (settleText run))) = Text.trim run := by
  rw [← trim_strip run, settleText]
  split
  · rename_i hblank
    rw [Text.trim_of_isBlank hblank]
    decide
  · simp

namespace Reread

variable {e e' : Element}

lemma sameTag (h : Reread e e') : SameTag e e' := by
  obtain ⟨name, attributes, children, span⟩ := e
  obtain ⟨name', attributes', children', span'⟩ := e'
  rw [Reread, Element.withoutSpans_mk, Element.settle_mk, Element.mk.injEq] at h
  exact ⟨h.1, h.2.1⟩

lemma children_eq (h : Reread e e') :
    contentWithoutSpans e'.children = settleContent "" e.children := by
  obtain ⟨name, attributes, children, span⟩ := e
  obtain ⟨name', attributes', children', span'⟩ := e'
  rw [Reread, Element.withoutSpans_mk, Element.settle_mk, Element.mk.injEq] at h
  exact h.2.2.1

/-- The child elements come back one by one. -/
lemma elements (h : Reread e e') : List.Forall₂ Reread e.elements e'.elements := by
  have helements := congrArg elementsIn h.children_eq
  rw [elementsIn_contentWithoutSpans, elementsIn_settleContent, ← Element.elements_eq,
    ← Element.elements_eq, eq_comm, ← List.forall₂_eq_eq_eq, List.forall₂_map_left_iff,
    List.forall₂_map_right_iff] at helements
  exact helements.imp fun x x' hx => hx.symm

lemma find (h : Reread e e') (name : String) :
    Option.Rel Reread (e.find name) (e'.find name) :=
  rel_find?_of_forall₂ (fun x x' hx => by rw [hx.sameTag.localName_eq]) h.elements

lemma filter_elements (h : Reread e e') {p : Element → Bool}
    (hp : ∀ x x', Reread x x' → p x = p x') :
    List.Forall₂ Reread (e.elements.filter p) (e'.elements.filter p) :=
  List.rel_filter (fun x x' hx => iff_of_eq (congrArg (· = true) (hp x x' hx))) h.elements

lemma findAll (h : Reread e e') (name : String) :
    List.Forall₂ Reread (e.findAll name) (e'.findAll name) :=
  h.filter_elements fun x x' hx => by rw [hx.sameTag.localName_eq]

lemma exists_find (h : Reread e e') {name : String} {x : Element} (hx : e.find name = some x) :
    ∃ x', e'.find name = some x' ∧ Reread x x' := by
  have hfind := h.find name
  rw [hx] at hfind
  generalize e'.find name = found at hfind
  cases hfind with
  | some hx' => exact ⟨_, rfl, hx'⟩

/-- The text of an element that holds texts only comes back. -/
lemma text_eq (h : Reread e e') (helements : e.elements = []) : e'.text = e.text := by
  have hchildren := h.children_eq
  rw [settleContent_of_elementsIn_eq_nil helements, String.empty_append] at hchildren
  rw [Element.text_eq, ← textsIn_contentWithoutSpans, hchildren, trim_join_textsIn_settleText,
    Element.text_eq]

end Reread

end IntegrationFlow.Xml
