import Mathlib
import IntegrationFlow.Proofs.Document
import IntegrationFlow.Proofs.List
import IntegrationFlow.Repair.Basic

/-!
# How checks change documents

A check changes the process of a document, mostly node by node, or its plane. Where it finds
nothing to mend, it returns the document it was given.
-/

namespace IntegrationFlow.Repair

open Xml (Element SameTag)
open Bpmn (Document isFlowNode isConnector)

/-! ### Names and attributes -/

lemma localPart_qualified {name : String} (h : ':' ∉ name.toList) (ns : Option String) :
    Xml.localPart (qualified ns name) = name := by
  cases ns with
  | none => exact Xml.localPart_eq_self h
  | some part => exact Xml.localPart_append h

lemma attrOrEmpty_of_sameTag {e e' : Element} (h : SameTag e e') (key : String) :
    attrOrEmpty e' key = attrOrEmpty e key := by
  rw [attrOrEmpty, h.attr_eq, attrOrEmpty]

lemma attrOrEmpty_eq {e : Element} {key value : String} (h : e.attr key = some value) :
    attrOrEmpty e key = value := by
  rw [attrOrEmpty, h, Option.getD_some]

/-- An attribute whose value is among texts that are not empty is present. -/
lemma attr_eq_some_of_mem {e : Element} {key : String} {values : List String} (hne : "" ∉ values)
    (h : attrOrEmpty e key ∈ values) : e.attr key = some (attrOrEmpty e key) := by
  rw [attrOrEmpty] at h ⊢
  cases hattr : e.attr key with
  | none =>
    rw [hattr] at h
    exact absurd h hne
  | some v => rfl

/-! ### The process and the plane -/

section Parts

variable {d : Document} {p : Element} {f : Element → Element × Report}

lemma onProcess_eq (h : d.process? = some p) :
    onProcess f d = (d.modifyProcess fun p => (f p).1, (f p).2) := by
  simp only [onProcess, h]

lemma onProcess_of_fixed (h : d.process? = some p) (hf : f p = (p, [])) :
    onProcess f d = (d, []) := by
  rw [onProcess_eq h, hf, Document.modifyProcess_eq_self h (congrArg Prod.fst hf)]

lemma process?_onProcess (h : d.process? = some p) (hf : SameTag p (f p).1) :
    (onProcess f d).1.process? = some (f p).1 := by
  rw [onProcess_eq h]
  exact Document.process?_modifyProcess h hf

lemma onPlane_eq (h : d.plane? = some p) :
    onPlane f d = (d.modifyPlane fun p => (f p).1, (f p).2) := by
  simp only [onPlane, h]

lemma onPlane_of_fixed (h : d.plane? = some p) (hf : f p = (p, [])) : onPlane f d = (d, []) := by
  rw [onPlane_eq h, hf, Document.modifyPlane_eq_self h (congrArg Prod.fst hf)]

lemma onPlane_of_none (h : d.plane? = none) : onPlane f d = (d, []) := by
  simp only [onPlane, h]

lemma process?_onPlane (f : Element → Element × Report) (d : Document) :
    (onPlane f d).1.process? = d.process? := by
  cases h : d.plane? with
  | none => rw [onPlane_of_none h]
  | some p =>
    rw [onPlane_eq h]
    exact Document.process?_modifyPlane d _

end Parts

/-! ### Flow nodes one by one -/

section FlowNodes

variable {f : Element → Element × Report}

lemma sameTag_onFlowNodes (process : Element) : SameTag process (onFlowNodes f process).1 :=
  Element.sameTag_mapElements _ _

/-- An edit of the flow nodes that keeps their tags gives the edited flow nodes. -/
lemma flowNodes_onFlowNodes (hf : ∀ e, SameTag e (f e).1) (process : Element) :
    (onFlowNodes f process).1.elements.filter isFlowNode
      = (process.elements.filter isFlowNode).map fun e => (f e).1 := by
  have htag : ∀ e ∈ process.elements, SameTag e (if isFlowNode e then (f e).1 else e) := by
    intro e _
    split
    · exact hf e
    · exact SameTag.refl e
  rw [onFlowNodes, Element.elements_mapElements,
    Bpmn.filter_map_of_sameTag Bpmn.isFlowNode_of_sameTag htag]
  refine List.map_congr_left fun e he => ?_
  rw [if_pos (List.mem_filter.mp he).2]

/-- An edit of the flow nodes leaves the connectors alone. -/
lemma connectors_onFlowNodes (hf : ∀ e, SameTag e (f e).1) (process : Element) :
    (onFlowNodes f process).1.elements.filter isConnector
      = process.elements.filter isConnector := by
  have htag : ∀ e ∈ process.elements, SameTag e (if isFlowNode e then (f e).1 else e) := by
    intro e _
    split
    · exact hf e
    · exact SameTag.refl e
  rw [onFlowNodes, Element.elements_mapElements,
    Bpmn.filter_map_of_sameTag Bpmn.isConnector_of_sameTag htag]
  refine (List.map_congr_left fun e he => ?_).trans (List.map_id _)
  rw [Bpmn.isFlowNode_of_isConnector (List.mem_filter.mp he).2, if_neg Bool.false_ne_true, id]

lemma onFlowNodes_of_fixed {process : Element}
    (h : ∀ e ∈ process.elements, isFlowNode e → f e = (e, [])) :
    onFlowNodes f process = (process, []) := by
  refine Prod.ext ?_ ?_
  · refine Element.mapElements_eq_self fun e he => ?_
    split
    · rw [h e he ‹_›]
    · rfl
  · simp only [onFlowNodes, List.flatMap_eq_nil_iff]
    intro e he
    obtain ⟨he, hnode⟩ := List.mem_filter.mp he
    rw [h e he hnode]

end FlowNodes

/-! ### Removals -/

lemma removeElements_of_fixed {f : Element → Option Diagnostic} {e : Element}
    (h : ∀ c ∈ e.elements, f c = none) : removeElements f e = (e, []) := by
  refine Prod.ext ?_ ?_
  · exact Element.keepElements_eq_self fun c hc => by simp [h c hc]
  · exact List.filterMap_eq_nil_iff.mpr h

/-! ### Sequences -/

lemma andThen_fst {α : Type} (f g : α → α × Report) (a : α) :
    (andThen f g a).1 = (g (f a).1).1 := rfl

lemma andThen_snd {α : Type} (f g : α → α × Report) (a : α) :
    (andThen f g a).2 = (f a).2 ++ (g (f a).1).2 := rfl

lemma andThen_eq {α : Type} (f g : α → α × Report) (a : α) :
    andThen f g a = ((g (f a).1).1, (f a).2 ++ (g (f a).1).2) := rfl

lemma andThen_of_fixed {α : Type} {f g : α → α × Report} {a : α} (hf : f a = (a, [])) :
    andThen f g a = g a := by
  simp only [andThen, hf, List.nil_append]

/-- Several repairs one after the other. -/
def inSequence {α : Type} : List (α → α × Report) → α → α × Report
  | [], a => (a, [])
  | f :: fs, a => andThen f (inSequence fs) a

lemma andThen_assoc {α : Type} (f g h : α → α × Report) :
    andThen (andThen f g) h = andThen f (andThen g h) := by
  funext a
  simp only [andThen, List.append_assoc]

/-- Repairs that are added at the end one after the other run in their order. -/
lemma foldl_andThen {α γ : Type} (g : γ → α → α × Report) (cs : List γ) (f : α → α × Report) :
    cs.foldl (fun f c => andThen f (g c)) f = andThen f (inSequence (cs.map g)) := by
  induction cs generalizing f with
  | nil =>
    funext a
    simp [andThen, inSequence]
  | cons c cs ih =>
    rw [List.foldl_cons, ih, andThen_assoc]
    rfl

/-! ### Fatal entries -/

lemma hasFatal_append (r s : Report) :
    Report.hasFatal (r ++ s) = (Report.hasFatal r || Report.hasFatal s) := List.any_append

lemma hasFatal_eq_false_iff {r : Report} :
    r.hasFatal = false ↔ ∀ x ∈ r, x.isFatal = false := by
  simp [Report.hasFatal]

lemma fatals_eq_nil_iff {r : Report} : Report.fatals r = [] ↔ r.hasFatal = false := by
  simp [Report.fatals, Report.hasFatal]

lemma fatals_append (r s : Report) :
    Report.fatals (r ++ s) = Report.fatals r ++ Report.fatals s := List.filter_append ..

/-- Repairs are never fatal. -/
lemma isFatal_repaired (node : Option String) (message : String) :
    (repaired node message).isFatal = false := rfl

lemma hasFatal_andThen_eq {α : Type} (f g : α → α × Report) (a : α) :
    (andThen f g a).2.hasFatal = ((f a).2.hasFatal || (g (f a).1).2.hasFatal) :=
  hasFatal_append ..

lemma hasFatal_andThen {α : Type} {f g : α → α × Report} {a : α}
    (h : (andThen f g a).2.hasFatal = false) :
    (f a).2.hasFatal = false ∧ (g (f a).1).2.hasFatal = false := by
  rwa [hasFatal_andThen_eq, Bool.or_eq_false_iff] at h

end IntegrationFlow.Repair
