import Mathlib
import IntegrationFlow.Proofs.Repair.Basic
import IntegrationFlow.Repair.Reference

/-!
# Diagrams brought in line

A diagram draws what is there: the shapes and lines on its plane stand for elements with an id
outside of the diagram. The first check removes all others, so whatever is done to a document
afterwards keeps the diagram in line as long as no id is lost.
-/

namespace IntegrationFlow.Repair

open Xml (Element SameTag elementsIn)
open Bpmn (Document)

/-! ### Ids outside of the diagram -/

lemma contentIds_eq (cs : List (Xml.Content Element)) :
    contentIds cs = (elementsIn cs).flatMap idsOutsideDiagram := by
  induction cs with
  | nil => simp [contentIds]
  | cons c cs ih => cases c <;> simp [contentIds, ih]

/-- The ids below an element are its own and those below its child elements; a diagram has none. -/
lemma mem_idsOutsideDiagram {e : Element} {id : String} :
    id ∈ idsOutsideDiagram e ↔ e.localName ≠ "BPMNDiagram" ∧
      (e.attr "id" = some id ∨ ∃ c ∈ e.elements, id ∈ idsOutsideDiagram c) := by
  obtain ⟨name, attributes, cs, span⟩ := e
  rw [idsOutsideDiagram]
  by_cases h : Xml.localPart name = "BPMNDiagram"
  · simp [h, Element.localName]
  · rw [if_neg (by simpa using h), List.mem_append, contentIds_eq, List.mem_flatMap,
      Option.mem_toList]
    simp only [Element.localName, Element.attr, Element.elements_eq, ne_eq, h, not_false_eq_true,
      true_and]

lemma idsOutsideDiagram_of_diagram {e : Element} (h : e.localName = "BPMNDiagram") :
    idsOutsideDiagram e = [] := by
  rw [List.eq_nil_iff_forall_not_mem]
  intro id hid
  exact (mem_idsOutsideDiagram.mp hid).1 h

/-- No id is lost where the tag stays and every child element has one with its ids to follow. -/
lemma idsOutsideDiagram_subset {e e' : Element} (htag : SameTag e e')
    (h : ∀ c ∈ e.elements, ∃ c' ∈ e'.elements, idsOutsideDiagram c ⊆ idsOutsideDiagram c') :
    idsOutsideDiagram e ⊆ idsOutsideDiagram e' := by
  intro id hid
  rw [mem_idsOutsideDiagram] at hid ⊢
  obtain ⟨hname, hid⟩ := hid
  refine ⟨by rwa [htag.localName_eq], ?_⟩
  rcases hid with hid | ⟨c, hc, hid⟩
  · exact Or.inl (by rw [htag.attr_eq, hid])
  · obtain ⟨c', hc', hsub⟩ := h c hc
    exact Or.inr ⟨c', hc', hsub hid⟩

lemma idsOutsideDiagram_insertBefore_subset (e c : Element) (p : Element → Bool) :
    idsOutsideDiagram e ⊆ idsOutsideDiagram (e.insertBefore c p) := by
  refine idsOutsideDiagram_subset (Element.sameTag_insertBefore ..) fun x hx => ?_
  refine ⟨x, (Element.elements_insertBefore_perm e c p).mem_iff.mpr ?_, List.Subset.refl _⟩
  exact List.mem_cons_of_mem _ hx

lemma idsOutsideDiagram_push_subset (e c : Element) :
    idsOutsideDiagram e ⊆ idsOutsideDiagram (e.push c) := by
  refine idsOutsideDiagram_subset (Element.sameTag_push ..) fun x hx => ⟨x, ?_, List.Subset.refl _⟩
  simp [hx]

/-- A change of the first element of a kind that loses no id loses none in the whole. -/
lemma idsOutsideDiagram_modifyFirst_subset {e x : Element} {q : Element → Bool}
    {f : Element → Element} (hx : e.elements.find? q = some x)
    (h : idsOutsideDiagram x ⊆ idsOutsideDiagram (f x)) :
    idsOutsideDiagram e ⊆ idsOutsideDiagram (e.modifyFirst q f) := by
  refine idsOutsideDiagram_subset (Element.sameTag_modifyFirst ..) fun c hc => ?_
  obtain ⟨l, r, he, -, hf⟩ := Element.exists_elements_modifyFirst hx
  rw [he, List.mem_append, List.mem_cons] at hc
  rcases hc with hc | rfl | hc
  · exact ⟨c, by simp [hf, hc], List.Subset.refl _⟩
  · exact ⟨f c, by simp [hf], h⟩
  · exact ⟨c, by simp [hf, hc], List.Subset.refl _⟩

lemma idsOutsideDiagram_modifyProcess_subset {d : Document} {p : Element} {f : Element → Element}
    (h : d.process? = some p) (hsub : idsOutsideDiagram p ⊆ idsOutsideDiagram (f p)) :
    idsOutsideDiagram d.root ⊆ idsOutsideDiagram (d.modifyProcess f).root :=
  idsOutsideDiagram_modifyFirst_subset h hsub

/-- A change of the plane is no change outside of the diagram. -/
lemma idsOutsideDiagram_modifyPlane (d : Document) (f : Element → Element) (id : String) :
    id ∈ idsOutsideDiagram (d.modifyPlane f).root ↔ id ∈ idsOutsideDiagram d.root := by
  cases hd : d.root.find "BPMNDiagram" with
  | none =>
    have hroot : (d.modifyPlane f).root = d.root := Element.modifyFirst_of_find?_eq_none hd
    rw [hroot]
  | some diagram =>
    have hname : diagram.localName = "BPMNDiagram" := by simpa using List.find?_some hd
    obtain ⟨l, r, he, -, hf⟩ := Element.exists_elements_modifyFirst hd
    have hroot : SameTag d.root (d.modifyPlane f).root := Element.sameTag_modifyFirst ..
    rw [mem_idsOutsideDiagram, mem_idsOutsideDiagram, hroot.localName_eq, hroot.attr_eq,
      Document.modifyPlane, hf, he]
    have hbefore := idsOutsideDiagram_of_diagram hname
    have hafter : idsOutsideDiagram
        (diagram.modifyFirst (fun e => e.localName == "BPMNPlane") f) = [] :=
      idsOutsideDiagram_of_diagram
        ((Element.sameTag_modifyFirst _ _ _).localName_eq.trans hname)
    simp [or_and_right, exists_or, hbefore, hafter]

/-! ### The plane -/

/-- Every shape and line of the plane stands for something outside of the diagram. -/
def DrawsKnown (d : Document) : Prop :=
  ∀ plane, d.plane? = some plane → ∀ e ∈ plane.elements, e.localName ∈ ["BPMNShape", "BPMNEdge"] →
    attrOrEmpty e "bpmnElement" ∈ idsOutsideDiagram d.root

lemma orphanShape?_eq_none_iff {known : List String} {e : Element} :
    orphanShape? known e = none ↔
      (e.localName ∈ ["BPMNShape", "BPMNEdge"] → attrOrEmpty e "bpmnElement" ∈ known) := by
  unfold orphanShape?
  by_cases h : e.localName ∈ ["BPMNShape", "BPMNEdge"] <;> simp [h]

/-- A diagram is left alone exactly when it is in line. -/
theorem syncDiagram_eq_self_iff {d : Document} : syncDiagram d = (d, []) ↔ DrawsKnown d := by
  constructor
  · intro h plane hplane e he hshape
    rw [syncDiagram, onPlane_eq hplane] at h
    have hnone := List.filterMap_eq_nil_iff.mp (congrArg Prod.snd h) e he
    exact orphanShape?_eq_none_iff.mp hnone hshape
  · intro h
    cases hplane : d.plane? with
    | none => exact onPlane_of_none hplane
    | some plane =>
      refine onPlane_of_fixed hplane (removeElements_of_fixed fun e he => ?_)
      exact orphanShape?_eq_none_iff.mpr (h plane hplane e he)

lemma mem_ids_syncDiagram (d : Document) (id : String) :
    id ∈ idsOutsideDiagram (syncDiagram d).1.root ↔ id ∈ idsOutsideDiagram d.root := by
  cases hplane : d.plane? with
  | none => rw [syncDiagram, onPlane_of_none hplane]
  | some plane =>
    rw [syncDiagram, onPlane_eq hplane]
    exact idsOutsideDiagram_modifyPlane ..

/-- The diagram is in line afterwards. -/
theorem drawsKnown_syncDiagram (d : Document) : DrawsKnown (syncDiagram d).1 := by
  intro plane hplane e he hshape
  rw [mem_ids_syncDiagram]
  cases hbefore : d.plane? with
  | none =>
    rw [syncDiagram, onPlane_of_none hbefore, hbefore] at hplane
    exact absurd hplane.symm (Option.some_ne_none plane)
  | some before =>
    rw [syncDiagram, onPlane_eq hbefore,
      Document.plane?_modifyPlane hbefore (Element.sameTag_keepElements ..)] at hplane
    obtain rfl := Option.some.inj hplane
    rw [removeElements, Element.elements_keepElements, List.mem_filter,
      Option.isNone_iff_eq_none] at he
    exact orphanShape?_eq_none_iff.mp he.2 hshape

/-- No removal from the diagram is fatal. -/
lemma hasFatal_syncDiagram (d : Document) : (syncDiagram d).2.hasFatal = false := by
  rw [hasFatal_eq_false_iff]
  intro x hx
  cases hplane : d.plane? with
  | none =>
    rw [syncDiagram, onPlane_of_none hplane] at hx
    exact absurd hx List.not_mem_nil
  | some plane =>
    rw [syncDiagram, onPlane_eq hplane] at hx
    obtain ⟨e, -, hx⟩ := List.mem_filterMap.mp hx
    simp only [orphanShape?] at hx
    split at hx
    · obtain rfl := Option.some.inj hx
      exact isFatal_repaired ..
    · exact absurd hx (by simp)

/-- The process is not concerned. -/
lemma process?_syncDiagram (d : Document) : (syncDiagram d).1.process? = d.process? :=
  process?_onPlane ..

/-- A change of the process that loses no id keeps the diagram in line. -/
lemma DrawsKnown.modifyProcess {d : Document} {p : Element} {f : Element → Element}
    (h : DrawsKnown d) (hp : d.process? = some p) (htag : SameTag p (f p))
    (hsub : idsOutsideDiagram p ⊆ idsOutsideDiagram (f p)) : DrawsKnown (d.modifyProcess f) := by
  intro plane hplane e he hshape
  rw [Document.plane?_modifyProcess hp htag] at hplane
  exact idsOutsideDiagram_modifyProcess_subset hp hsub (h plane hplane e he hshape)

end IntegrationFlow.Repair
