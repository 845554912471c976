import Mathlib
import IntegrationFlow.Proofs.Element
import IntegrationFlow.Bpmn.Document

/-!
# Parts of edited documents

The process and the plane of a document after one of them was changed. Each change is seen in its
own part only.
-/

namespace IntegrationFlow.Bpmn

open Xml (Element SameTag)

/-! ### Flow nodes and connectors among elements -/

lemma isFlowNode_of_sameTag {e e' : Element} (h : SameTag e e') : isFlowNode e' = isFlowNode e := by
  rw [isFlowNode, h.localName_eq, isFlowNode]

lemma isConnector_of_sameTag {e e' : Element} (h : SameTag e e') :
    isConnector e' = isConnector e := by
  rw [isConnector, h.localName_eq, isConnector]

/-- A connector is no flow node. -/
lemma isFlowNode_of_isConnector {e : Element} (h : isConnector e) : isFlowNode e = false := by
  have hname : e.localName = "sequenceFlow" := by simpa [isConnector] using h
  simp [isFlowNode, hname, flowNodeTags]

/-- What is written as a connector is one. -/
lemma isConnector_sequenceFlow (id source target : String) (kind : EdgeKind)
    (condition : Option String) : isConnector (sequenceFlow id source target kind condition) := by
  have hname : Xml.localPart "bpmn2:sequenceFlow" = "sequenceFlow" := by decide
  simp [isConnector, sequenceFlow, Element.localName, hname]

/-- Selecting elements by their tags commutes with an edit that keeps the tags. -/
lemma filter_map_of_sameTag {q : Element → Bool} {f : Element → Element} {es : List Element}
    (hq : ∀ {e e' : Element}, SameTag e e' → q e' = q e) (hf : ∀ e ∈ es, SameTag e (f e)) :
    (es.map f).filter q = (es.filter q).map f := by
  rw [List.filter_map]
  congr 1
  exact List.filter_congr fun e he => hq (hf e he)

namespace Document

variable {d : Document} {p : Element} {f : Element → Element}

lemma localName_of_process?_eq_some (h : d.process? = some p) : p.localName = "process" := by
  simpa using List.find?_some h

lemma localName_of_plane?_eq_some (h : d.plane? = some p) : p.localName = "BPMNPlane" := by
  obtain ⟨diagram, -, hp⟩ := Option.bind_eq_some_iff.mp h
  simpa using List.find?_some hp

lemma flowNodes_eq (h : d.process? = some p) : d.flowNodes = p.elements.filter isFlowNode := by
  simp [flowNodes, h]

lemma connectors_eq (h : d.process? = some p) : d.connectors = p.elements.filter isConnector := by
  simp [connectors, h]

lemma mem_flowNodes (h : d.process? = some p) {e : Element} :
    e ∈ d.flowNodes ↔ e ∈ p.elements ∧ isFlowNode e := by
  rw [flowNodes_eq h, List.mem_filter]

lemma mem_connectors (h : d.process? = some p) {e : Element} :
    e ∈ d.connectors ↔ e ∈ p.elements ∧ isConnector e := by
  rw [connectors_eq h, List.mem_filter]

/-! ### Changes of the process -/

/-- A changed process is the process of the changed document. -/
lemma process?_modifyProcess (h : d.process? = some p) (hf : SameTag p (f p)) :
    (d.modifyProcess f).process? = some (f p) := by
  refine Element.find?_modifyFirst h ?_
  simp [hf.localName_eq, localName_of_process?_eq_some h]

/-- A change of the process leaves the diagram alone. -/
lemma plane?_modifyProcess (h : d.process? = some p) (hf : SameTag p (f p)) :
    (d.modifyProcess f).plane? = d.plane? := by
  have hp := localName_of_process?_eq_some h
  have hfind : (d.modifyProcess f).root.find "BPMNDiagram" = d.root.find "BPMNDiagram" := by
    refine Element.find?_modifyFirst_of_not h ?_ ?_
    · simp [hp]
    · simp [hf.localName_eq, hp]
  simp only [plane?, hfind]

lemma modifyProcess_eq_self (h : d.process? = some p) (hf : f p = p) : d.modifyProcess f = d := by
  obtain ⟨root⟩ := d
  exact congrArg Document.mk (Element.modifyFirst_eq_self h hf)

/-! ### Changes of the plane -/

/-- A change of the plane leaves the process alone. -/
lemma process?_modifyPlane (d : Document) (f : Element → Element) :
    (d.modifyPlane f).process? = d.process? := by
  cases hd : d.root.find "BPMNDiagram" with
  | none =>
    have hroot : (d.modifyPlane f).root = d.root := Element.modifyFirst_of_find?_eq_none hd
    rw [process?, hroot, process?]
  | some diagram =>
    have hname : diagram.localName = "BPMNDiagram" := by simpa using List.find?_some hd
    refine Element.find?_modifyFirst_of_not hd ?_ ?_
    · simp [hname]
    · simp [(Element.sameTag_modifyFirst _ _ _).localName_eq, hname]

/-- A changed plane is the plane of the changed document. -/
lemma plane?_modifyPlane (h : d.plane? = some p) (hf : SameTag p (f p)) :
    (d.modifyPlane f).plane? = some (f p) := by
  obtain ⟨diagram, hd, hp⟩ := Option.bind_eq_some_iff.mp h
  have hname : diagram.localName = "BPMNDiagram" := by simpa using List.find?_some hd
  have hfind : (d.modifyPlane f).root.find "BPMNDiagram"
      = some (diagram.modifyFirst (fun e => e.localName == "BPMNPlane") f) := by
    refine Element.find?_modifyFirst hd ?_
    simp [(Element.sameTag_modifyFirst _ _ _).localName_eq, hname]
  rw [plane?, hfind, Option.bind_some]
  refine Element.find?_modifyFirst hp ?_
  simp [hf.localName_eq, localName_of_plane?_eq_some h]

lemma modifyPlane_eq_self (h : d.plane? = some p) (hf : f p = p) : d.modifyPlane f = d := by
  obtain ⟨root⟩ := d
  obtain ⟨diagram, hd, hp⟩ := Option.bind_eq_some_iff.mp h
  exact congrArg Document.mk
    (Element.modifyFirst_eq_self hd (Element.modifyFirst_eq_self hp hf))

/-- Without a plane nothing changes. -/
lemma modifyPlane_of_plane?_eq_none (h : d.plane? = none) : d.modifyPlane f = d := by
  obtain ⟨root⟩ := d
  refine congrArg Document.mk ?_
  cases hd : root.find "BPMNDiagram" with
  | none => exact Element.modifyFirst_of_find?_eq_none hd
  | some diagram =>
    rw [plane?, hd, Option.bind_some] at h
    exact Element.modifyFirst_eq_self hd (Element.modifyFirst_of_find?_eq_none h)

end Document

end IntegrationFlow.Bpmn
