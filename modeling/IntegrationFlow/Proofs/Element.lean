import Mathlib
import IntegrationFlow.Proofs.Text
import IntegrationFlow.Xml.Element

/-!
# Edits of elements

What each edit of an element does to its tag and to the list of its child elements. A document is
repaired by such edits alone, so a statement about a repaired document comes down to these.
-/

namespace IntegrationFlow.Xml

/-- The elements of a content, without the texts. -/
def elementsIn (cs : List (Content Element)) : List Element :=
  cs.filterMap fun
    | .element c => some c
    | .text _ => none

@[simp] lemma elementsIn_nil : elementsIn [] = [] := rfl

@[simp] lemma elementsIn_element (e : Element) (cs : List (Content Element)) :
    elementsIn (.element e :: cs) = e :: elementsIn cs := rfl

@[simp] lemma elementsIn_text (s : String) (cs : List (Content Element)) :
    elementsIn (.text s :: cs) = elementsIn cs := rfl

@[simp] lemma elementsIn_append (cs ds : List (Content Element)) :
    elementsIn (cs ++ ds) = elementsIn cs ++ elementsIn ds := by
  simp [elementsIn]

@[simp] lemma elementsIn_map_element (es : List Element) :
    elementsIn (es.map Content.element) = es := by
  induction es with
  | nil => rfl
  | cons e es ih => simp [ih]

/-! ### Descendants -/

mutual

/-- The elements below an element, each before those below itself. -/
def Element.descendants : Element → List Element
  | ⟨_, _, children, _⟩ => descendantsIn children

/-- The elements of a content and those below them. -/
def descendantsIn : List (Content Element) → List Element
  | [] => []
  | .text _ :: cs => descendantsIn cs
  | .element e :: cs => e :: (e.descendants ++ descendantsIn cs)

end

lemma Element.descendants_eq (e : Element) : e.descendants = descendantsIn e.children := by
  obtain ⟨name, attributes, children, span⟩ := e
  rw [Element.descendants]

lemma descendantsIn_append (cs ds : List (Content Element)) :
    descendantsIn (cs ++ ds) = descendantsIn cs ++ descendantsIn ds := by
  induction cs with
  | nil => rfl
  | cons c cs ih => cases c <;> simp [descendantsIn, ih]

/-- Each child element is followed by what is below it. -/
lemma Element.descendants_eq_flatMap (e : Element) :
    e.descendants = e.elements.flatMap fun c => c :: c.descendants := by
  rw [e.descendants_eq]
  change _ = (elementsIn e.children).flatMap _
  induction e.children with
  | nil => rfl
  | cons c cs ih => cases c <;> simp [descendantsIn, ih]

/-- What holds of an element if it holds of its child elements holds of every element. -/
@[elab_as_elim]
lemma Element.induction {P : Element → Prop} (step : ∀ e, (∀ x ∈ e.elements, P x) → P e)
    (e : Element) : P e := by
  refine step e fun x hx => ?_
  have hmem : Content.element x ∈ e.children := by
    obtain ⟨c, hc, heq⟩ := List.mem_filterMap.mp hx
    cases c with
    | text s => exact absurd heq (by simp)
    | element y => exact Option.some.inj heq ▸ hc
  have hsize : sizeOf x < sizeOf e := by
    have hcontent := List.sizeOf_lt_of_mem hmem
    obtain ⟨name, attributes, children, span⟩ := e
    simp only [Content.element.sizeOf_spec, Element.mk.sizeOf_spec] at hcontent ⊢
    omega
  exact Element.induction step x
termination_by sizeOf e

section Subset

variable (e : Element) (cs : List (Content Element))

lemma descendantsIn_subset_cons : descendantsIn cs ⊆ descendantsIn (.element e :: cs) := by
  intro x hx
  simp [descendantsIn, hx]

lemma cons_descendants_subset : e :: e.descendants ⊆ descendantsIn (.element e :: cs) := by
  intro x hx
  rw [descendantsIn, ← List.cons_append]
  exact List.mem_append_left _ hx

lemma elementsIn_subset_descendantsIn : elementsIn cs ⊆ descendantsIn cs := by
  induction cs with
  | nil => exact List.Subset.refl _
  | cons c cs ih =>
    cases c with
    | text s => exact ih
    | element e =>
      rw [elementsIn_element, descendantsIn]
      exact List.cons_subset_cons _ (List.Subset.trans ih (List.subset_append_right ..))

lemma descendantsIn_children_subset : descendantsIn e.children ⊆ e :: e.descendants := by
  rw [e.descendants_eq]
  exact List.subset_cons_self ..

end Subset

lemma descendants_subset_of_mem {e : Element} {cs : List (Content Element)}
    (h : e ∈ elementsIn cs) : e.descendants ⊆ descendantsIn cs := by
  induction cs with
  | nil => exact absurd h List.not_mem_nil
  | cons c cs ih =>
    cases c with
    | text s => exact ih h
    | element x =>
      rcases List.mem_cons.mp h with rfl | h
      · exact List.Subset.trans (List.subset_cons_self ..) (cons_descendants_subset e cs)
      · exact List.Subset.trans (ih h) (descendantsIn_subset_cons x cs)

/-! ### Tags -/

/-- `e'` has the name and the attributes of `e`. -/
structure SameTag (e e' : Element) : Prop where
  name_eq : e'.name = e.name
  attributes_eq : e'.attributes = e.attributes

namespace SameTag

variable {e e' e'' : Element}

lemma refl (e : Element) : SameTag e e := ⟨rfl, rfl⟩

lemma trans (h : SameTag e e') (h' : SameTag e' e'') : SameTag e e'' :=
  ⟨h'.name_eq.trans h.name_eq, h'.attributes_eq.trans h.attributes_eq⟩

lemma localName_eq (h : SameTag e e') : e'.localName = e.localName := by
  rw [Element.localName, h.name_eq, Element.localName]

lemma namespacePart_eq (h : SameTag e e') : e'.namespacePart = e.namespacePart := by
  rw [Element.namespacePart, h.name_eq, Element.namespacePart]

lemma attr_eq (h : SameTag e e') (key : String) : e'.attr key = e.attr key := by
  rw [Element.attr, h.attributes_eq, Element.attr]

end SameTag

namespace Element

@[simp] lemma localName_mk (name : String) (attributes : OrderedMap String String)
    (children : List (Content Element)) (span : Option Span) :
    localName ⟨name, attributes, children, span⟩ = localPart name := by
  -- not `rfl`: as a definitional rewrite it would leave the instances of conditions as they are
  rw [localName]

variable (e c : Element) (p : Element → Bool) (f : Element → Element)

lemma elements_eq : e.elements = elementsIn e.children := rfl

lemma sameTag_push : SameTag e (e.push c) := ⟨rfl, rfl⟩

lemma sameTag_insertBefore : SameTag e (e.insertBefore c p) := ⟨rfl, rfl⟩

lemma sameTag_keepElements : SameTag e (e.keepElements p) := ⟨rfl, rfl⟩

lemma sameTag_mapElements : SameTag e (e.mapElements f) := ⟨rfl, rfl⟩

lemma sameTag_modifyFirst : SameTag e (e.modifyFirst p f) := ⟨rfl, rfl⟩

/-! ### Child elements -/

@[simp] lemma elements_push : (e.push c).elements = e.elements ++ [c] := by
  simp [elements_eq, push]

@[simp] lemma elements_keepElements : (e.keepElements p).elements = e.elements.filter p := by
  simp only [elements_eq, keepElements]
  generalize e.children = cs
  induction cs with
  | nil => rfl
  | cons x cs ih =>
    cases x with
    | element x => by_cases hx : p x <;> simp [hx, ih]
    | text s => simpa using ih

@[simp] lemma elements_mapElements : (e.mapElements f).elements = e.elements.map f := by
  simp only [elements_eq, mapElements]
  generalize e.children = cs
  induction cs with
  | nil => rfl
  | cons x cs ih => cases x <;> simp [ih]

/-- Keeping every child element changes nothing. -/
lemma keepElements_eq_self {e : Element} {p : Element → Bool} (h : ∀ x ∈ e.elements, p x) :
    e.keepElements p = e := by
  obtain ⟨name, attributes, cs, span⟩ := e
  simp only [keepElements, Element.mk.injEq, true_and, and_true]
  rw [List.filter_eq_self]
  rintro (x | s) hx
  · exact h x (List.mem_filterMap.mpr ⟨_, hx, rfl⟩)
  · rfl

/-- An edit that leaves every child element alone changes nothing. -/
lemma mapElements_eq_self {e : Element} {f : Element → Element} (h : ∀ x ∈ e.elements, f x = x) :
    e.mapElements f = e := by
  obtain ⟨name, attributes, cs, span⟩ := e
  simp only [mapElements, Element.mk.injEq, true_and, and_true]
  refine (List.map_congr_left ?_).trans (List.map_id cs)
  rintro (x | s) hx
  · simp only [h x (List.mem_filterMap.mpr ⟨_, hx, rfl⟩), id]
  · rfl

/-- An insertion adds the child and nothing else; it may stand anywhere. -/
lemma elements_insertBefore_perm : (e.insertBefore c p).elements.Perm (c :: e.elements) := by
  simp only [elements_eq, insertBefore]
  generalize e.children = cs
  induction cs with
  | nil => exact List.Perm.refl _
  | cons x cs ih =>
    cases x with
    | element x =>
      by_cases hx : p x
      · simp [insertIn, hx]
      · simp only [insertIn, hx, Bool.false_eq_true, if_false, elementsIn_element]
        exact (ih.cons x).trans (List.Perm.swap _ _ _)
    | text s => simpa [insertIn] using ih

/-- An insertion does not reorder the elements that satisfy a predicate the child fails. -/
lemma filter_elements_insertBefore {q : Element → Bool} (hc : q c = false) :
    (e.insertBefore c p).elements.filter q = e.elements.filter q := by
  simp only [elements_eq, insertBefore]
  generalize e.children = cs
  induction cs with
  | nil => simp [insertIn, hc]
  | cons x cs ih =>
    cases x with
    | element x =>
      by_cases hx : p x
      · simp [insertIn, hx, hc]
      · simp [insertIn, hx, List.filter_cons, ih]
    | text s => simpa [insertIn] using ih

/-! ### The first child element with a property -/

/-- Where the first element that satisfies `p` stands, and what changing it makes of the content. -/
lemma exists_modifyIn_eq {p : Element → Bool} {cs : List (Content Element)} {x : Element}
    (h : (elementsIn cs).find? p = some x) :
    ∃ l r, cs = l ++ .element x :: r ∧ (∀ y ∈ elementsIn l, p y = false) ∧
      ∀ f : Element → Element, modifyIn p f cs = l ++ .element (f x) :: r := by
  induction cs with
  | nil => simp at h
  | cons y cs ih =>
    cases y with
    | text s =>
      obtain ⟨l, r, rfl, hl, hf⟩ := ih (by simpa using h)
      exact ⟨.text s :: l, r, rfl, by simpa using hl, fun f => by simp [modifyIn, hf f]⟩
    | element y =>
      rw [elementsIn_element, List.find?_cons] at h
      cases hy : p y with
      | true =>
        obtain rfl : y = x := by simpa [hy] using h
        exact ⟨[], cs, rfl, by simp, fun f => by simp [modifyIn, hy]⟩
      | false =>
        obtain ⟨l, r, rfl, hl, hf⟩ := ih (by simpa [hy] using h)
        refine ⟨.element y :: l, r, rfl, ?_, fun f => by simp [modifyIn, hy, hf f]⟩
        simpa [hy] using hl

section ModifyFirst

variable {e : Element} {p : Element → Bool} {f g : Element → Element} {x : Element}

/-- A change that leaves the element it is meant for alone changes nothing. -/
lemma modifyFirst_eq_self (h : e.elements.find? p = some x) (hx : f x = x) :
    e.modifyFirst p f = e := by
  obtain ⟨name, attributes, cs, span⟩ := e
  obtain ⟨l, r, rfl, -, hf⟩ := exists_modifyIn_eq h
  simp only [modifyFirst, hf, hx]

/-- Without an element to change nothing changes. -/
lemma modifyFirst_of_find?_eq_none (h : e.elements.find? p = none) : e.modifyFirst p f = e := by
  obtain ⟨name, attributes, cs, span⟩ := e
  simp only [modifyFirst, Element.mk.injEq, true_and, and_true]
  change (elementsIn cs).find? p = none at h
  induction cs with
  | nil => rfl
  | cons y cs ih =>
    cases y with
    | text s => simp [modifyIn, ih (by simpa using h)]
    | element y =>
      rw [elementsIn_element, List.find?_cons] at h
      cases hy : p y with
      | true => simp [hy] at h
      | false => simp [modifyIn, hy, ih (by simpa [hy] using h)]

lemma exists_elements_modifyFirst (h : e.elements.find? p = some x) :
    ∃ l r, e.elements = l ++ x :: r ∧ (∀ y ∈ l, p y = false) ∧
      ∀ f : Element → Element, (e.modifyFirst p f).elements = l ++ f x :: r := by
  obtain ⟨l, r, hcs, hl, hf⟩ := exists_modifyIn_eq h
  refine ⟨elementsIn l, elementsIn r, ?_, hl, fun f => ?_⟩
  · rw [elements_eq, hcs]
    simp
  · simp [elements_eq, modifyFirst, hf f]

/-- The changed element is found in the place of the first one. -/
lemma find?_modifyFirst (h : e.elements.find? p = some x) (hp : p (f x)) :
    (e.modifyFirst p f).elements.find? p = some (f x) := by
  obtain ⟨l, r, -, hl, hf⟩ := exists_elements_modifyFirst h
  rw [hf, List.find?_append, List.find?_eq_none.mpr (by simpa using hl)]
  simp [hp]

/-- A change is not seen by a search that passes over the element before and after it. -/
lemma find?_modifyFirst_of_not {q : Element → Bool} (h : e.elements.find? p = some x)
    (hx : q x = false) (hfx : q (f x) = false) :
    (e.modifyFirst p f).elements.find? q = e.elements.find? q := by
  obtain ⟨l, r, he, -, hf⟩ := exists_elements_modifyFirst h
  rw [hf, he]
  simp [List.find?_append, hx, hfx]

/-- A change is not seen by a filter that drops the element before and after it. -/
lemma filter_modifyFirst_of_not {q : Element → Bool} (h : e.elements.find? p = some x)
    (hx : q x = false) (hfx : q (f x) = false) :
    (e.modifyFirst p f).elements.filter q = e.elements.filter q := by
  obtain ⟨l, r, he, -, hf⟩ := exists_elements_modifyFirst h
  rw [hf, he]
  simp [hx, hfx]

end ModifyFirst

/-! ### Texts -/

lemma localName_ofText (name s : String) : (ofText name s).localName = localPart name := rfl

@[simp] lemma text_ofText (name s : String) : (ofText name s).text = Text.trim s := by
  simp [text, ofText, String.join]

@[simp] lemma text_of_children (name s : String) (attributes : OrderedMap String String)
    (span : Option Span) : (⟨name, attributes, [.text s], span⟩ : Element).text = Text.trim s := by
  simp [text, String.join]

end Element

/-! ### Names -/

/-- The local part of a name without a colon is the name. -/
lemma localPart_eq_self {name : String} (h : ':' ∉ name.toList) : localPart name = name :=
  Text.afterLast_eq_self h

/-- The local part is what follows a colon, if there is no other behind it. -/
lemma localPart_append {part name : String} (h : ':' ∉ name.toList) :
    localPart (part ++ ":" ++ name) = name :=
  Text.afterLast_append h

end IntegrationFlow.Xml
