import Mathlib
import IntegrationFlow.Proofs.Bpmn.Reserved
import IntegrationFlow.Proofs.Graph.Adjacency
import IntegrationFlow.Proofs.Repair.Pass

/-!
# Written documents

What is read in a document that was written for a flow: its flow nodes are the nodes of the flow and
its connectors the edges, under their ids.
-/

namespace IntegrationFlow.Bpmn

open Xml (Element Content)
open Repair (Identified)

/-! ### Ids of connectors -/

lemma isTrimmed_idOf (i : Nat) : Text.IsTrimmed (Edge.idOf i) := by
  refine Text.isTrimmed_of_forall fun c hc => ?_
  rw [Edge.idOf, String.toList_append, List.mem_append] at hc
  rcases hc with hc | hc
  · have hall : ("SequenceFlow_".toList.all fun c => !Text.isSpace c) = true := by decide
    simpa using List.all_eq_true.mp hall c hc
  · exact isSpace_of_isIdChar (isIdChar_of_mem_toString hc)

/-- No edge is named as a connector that attaches a node. -/
lemma idOf_ne_attachmentId (i : Nat) (node : String) : Edge.idOf i ≠ Repair.attachmentId node := by
  intro h
  have hsplit : Repair.attachmentId node = "SequenceFlow_" ++ ("repair_" ++ node) := by
    rw [← String.append_assoc]
    rfl
  rw [hsplit, Edge.idOf, String.append_right_inj] at h
  have hmem : 'r' ∈ (toString i).toList := by
    rw [h, String.toList_append]
    exact List.mem_append_left _ (by decide)
  exact absurd (isDigit_of_mem_toString hmem) (by decide)

/-! ### The process of a document -/

lemma process?_ofContent (m : FlowMeta) (extent : Option (Layout.Bounds Float))
    (content plane : List Element) :
    (Document.ofContent m extent content plane).process? = some (processElement content) := by
  have helements : (Document.ofContent m extent content plane).root.elements
      = [collaboration m, processElement content, diagramElement extent plane] := rfl
  have hfirst : (collaboration m).localName ≠ "process" := by
    change Xml.localPart "bpmn2:collaboration" ≠ "process"
    decide
  have hsecond : (processElement content).localName = "process" := by
    change Xml.localPart "bpmn2:process" = "process"
    decide
  rw [Document.process?, Element.find, helements]
  simp [hfirst, hsecond]

/-- The content of a process is read behind the extension that every process has. -/
lemma filter_elements_processElement (content : List Element) {q : Element → Bool}
    (hq : ∀ e : Element, e.localName = "extensionElements" → q e = false) :
    (processElement content).elements.filter q = content.filter q := by
  rw [Element.elements_eq, processElement, Xml.elementsIn_map_element, List.filter_cons_of_neg]
  refine Bool.eq_false_iff.mp (hq _ ?_)
  change Xml.localPart "bpmn2:extensionElements" = "extensionElements"
  decide

/-! ### Flows -/

/-- `e` is what is written for a node. -/
def Writes (n : Node) (e : Element) : Prop :=
  ∃ t, standardTemplate? n.target = some t ∧ e = flowElement t n

/-- The connector of an edge. -/
def connectorOf (e : Edge) : Element := sequenceFlow e.id e.source e.target e.kind e.condition

/-- The type of a node is what is read first under its key. -/
lemma propertyValue?_flowElement {t : Template} {n : Node}
    (ht : standardTemplate? n.target = some t) :
    propertyValue? (flowElement t n) "componentType" = some n.target.name := by
  have htrim : Text.trim t.target.name = t.target.name :=
    (Repair.sound_of_standardTemplate? ht).trimmed.1
  have hkey : Text.trim "componentType" = "componentType" := by decide
  rw [propertyValue?, find_flowElement, Option.bind_some, properties_extensionElement,
    nodeProperties, List.append_assoc, List.cons_append, List.map_cons, hkey, htrim,
    List.lookup_cons_self, Repair.target_of_standardTemplate? ht]

lemma attr_connectorOf (e : Edge) : (connectorOf e).attr "id" = some e.id ∧
    (connectorOf e).attr "sourceRef" = some e.source ∧
    (connectorOf e).attr "targetRef" = some e.target ∧
    (connectorOf e).attr "name" = e.condition := by
  unfold connectorOf
  cases e.condition <;> exact ⟨rfl, rfl, rfl, rfl⟩

/-- A document shows a flow: an element for each node and a connector for each edge. -/
structure Depicts (d : Document) (g : FlowGraph) : Prop where
  process : ∃ p, d.process? = some p
  nodes : List.Forall₂ Writes g.nodeList d.flowNodes
  connectors : d.connectors = g.edgeList.map connectorOf

section Flow

variable {g : FlowGraph} {p : Layout.Positions Float} {m : FlowMeta}

lemma template?_nil (target : TargetType) : template? [] target = standardTemplate? target := rfl

/-- Every type has a template, unresolved apart. -/
lemma exists_standardTemplate? {target : TargetType} (h : target ≠ .unresolved) :
    ∃ t, standardTemplate? target = some t := by
  cases target with
  | unresolved => exact absurd rfl h
  | _ => exact ⟨_, rfl⟩

lemma writes_of_renderNode {n : Node} {parts : Element × Element}
    (h : renderNode [] p n = .ok parts) : Writes n parts.1 := by
  unfold renderNode at h
  split at h
  · exact absurd h (by simp)
  · rename_i t ht
    obtain ⟨position, -, hparts⟩ := bind_eq_ok_iff.mp h
    obtain rfl := Except.ok.inj hparts
    split at ht
    · exact ⟨t, ht, rfl⟩
    · exact absurd ht (by simp)

lemma connectorOf_of_renderEdge {e : Edge} {parts : Element × Element}
    (h : renderEdge p e = .ok parts) : connectorOf e = parts.1 := by
  obtain ⟨points, -, hparts⟩ := bind_eq_ok_iff.mp h
  obtain rfl := Except.ok.inj hparts
  rfl

lemma isFlowNode_of_writes {n : Node} {e : Element} (h : Writes n e) : isFlowNode e := by
  obtain ⟨t, ht, rfl⟩ := h
  exact isFlowNode_flowElement (Repair.sound_of_standardTemplate? ht) n

/-- What is written for a flow shows it. -/
theorem depicts_of_generate {d : Document} {manifest : Manifest}
    (h : generate [] g p m = .ok (d, manifest)) : Depicts d g := by
  obtain ⟨nodes, hnodes, h⟩ := bind_eq_ok_iff.mp h
  obtain ⟨edges, hedges, h⟩ := bind_eq_ok_iff.mp h
  obtain ⟨rfl, -⟩ := Prod.mk.inj (Except.ok.inj h)
  have hp := process?_ofContent m p.extent? ((nodes ++ edges).map (·.1))
    ((nodes ++ edges).map (·.2))
  have hwrites : List.Forall₂ Writes g.nodeList (nodes.map (·.1)) := by
    rw [List.forall₂_map_right_iff]
    exact (mapM_eq_ok_iff.mp hnodes).imp fun n parts => writes_of_renderNode
  have hconnectors : edges.map (·.1) = g.edgeList.map connectorOf := by
    refine (map_eq_map_of_forall₂ (fun e parts h => ?_) (mapM_eq_ok_iff.mp hedges)).symm
    exact connectorOf_of_renderEdge h
  have hnode : ∀ e ∈ nodes.map (·.1), isFlowNode e := by
    intro e he
    obtain ⟨n, -, hn⟩ := exists_of_mem_forall₂ hwrites he
    exact isFlowNode_of_writes hn
  have hconnector : ∀ e ∈ edges.map (·.1), isConnector e := by
    rw [hconnectors]
    intro e he
    obtain ⟨x, -, rfl⟩ := List.mem_map.mp he
    exact isConnector_sequenceFlow ..
  refine ⟨⟨_, hp⟩, ?_, ?_⟩
  · rw [Document.flowNodes_eq hp, filter_elements_processElement _ fun e he => by
      simp [isFlowNode, he, flowNodeTags], List.map_append, List.filter_append,
      List.filter_eq_self.mpr hnode, List.filter_eq_nil_iff.mpr fun e he => by
        simp [isFlowNode_of_isConnector (hconnector e he)], List.append_nil]
    exact hwrites
  · rw [Document.connectors_eq hp, filter_elements_processElement _ fun e he => by
      simp [isConnector, he], List.map_append, List.filter_append,
      List.filter_eq_self.mpr hconnector, List.filter_eq_nil_iff.mpr fun e he hc => by
        simpa [isFlowNode_of_isConnector hc] using hnode e he, List.nil_append]
    exact hconnectors

/-- A flow can be written if every node has a type and a place in the drawing. -/
theorem exists_generate (hwell : g.WellFormed)
    (htypes : ∀ n ∈ g.nodeList, n.target ≠ .unresolved)
    (hplaces : ∀ n ∈ g.nodeList, ∃ position, p.node? n.id = some position) (m : FlowMeta) :
    ∃ d manifest, generate [] g p m = .ok (d, manifest) := by
  obtain ⟨nodes, hnodes⟩ : ∃ nodes, g.nodeList.mapM (renderNode [] p) = .ok nodes := by
    refine exists_mapM_eq_ok fun n hn => ?_
    obtain ⟨t, ht⟩ := exists_standardTemplate? (htypes n hn)
    obtain ⟨position, hposition⟩ := hplaces n hn
    have hresolved : n.target.isResolved := by simp [TargetType.isResolved, htypes n hn]
    refine ⟨(flowElement t n, shapeElement n.id position.bounds), ?_⟩
    simp only [renderNode, hresolved, if_true, template?_nil, ht, positionOf, hposition]
    rfl
  have hend : ∀ id ∈ OrderedMap.keys g.nodes, ∃ position, positionOf p id = .ok position := by
    intro id hid
    rw [hwell.keys_eq] at hid
    obtain ⟨n, hn, rfl⟩ := List.mem_map.mp hid
    obtain ⟨position, hposition⟩ := hplaces n hn
    exact ⟨position, by simp only [positionOf, hposition]⟩
  obtain ⟨edges, hedges⟩ : ∃ edges, g.edgeList.mapM (renderEdge p) = .ok edges := by
    refine exists_mapM_eq_ok fun e he => ?_
    obtain ⟨hsource, htarget⟩ := hwell.ends_mem e he
    obtain ⟨source, hsource⟩ := hend _ hsource
    obtain ⟨target, htarget⟩ := hend _ htarget
    cases hpoints : p.points? e.id with
    | some points => exact ⟨_, by simp only [renderEdge, edgePoints, hpoints]; rfl⟩
    | none => exact ⟨_, by simp only [renderEdge, edgePoints, hpoints, hsource, htarget]; rfl⟩
  exact ⟨_, _, by simp only [generate, hnodes, hedges]; rfl⟩

/-! ### Flows as they are shown -/

namespace Depicts

variable {d : Document}

/-- The flow nodes have the ids of the nodes, in their order. -/
lemma map_attr_flowNodes (h : Depicts d g) :
    d.flowNodes.map (·.attr "id") = g.nodeList.map fun n => some n.id := by
  refine (map_eq_map_of_forall₂ (fun n e hwrites => ?_) h.nodes).symm
  obtain ⟨t, -, rfl⟩ := hwrites
  exact (attr_flowElement t n).symm

lemma connectorIds_eq (h : Depicts d g) :
    d.connectors.filterMap (·.attr "id") = g.edgeList.map Edge.id := by
  rw [h.connectors, List.filterMap_map, ← List.filterMap_eq_map]
  rfl

/-- The ids of a well-formed flow can be told apart in the document. -/
theorem identified (h : Depicts d g) (hwell : g.WellFormed)
    (hids : ∀ n ∈ g.nodeList, IsNodeId n.id) : Identified d := by
  have hconnector : ∀ id ∈ d.connectors.filterMap (·.attr "id"), ∃ i, id = Edge.idOf i := by
    rw [h.connectorIds_eq, hwell.edge_ids]
    intro id hid
    obtain ⟨i, -, rfl⟩ := List.mem_map.mp hid
    exact ⟨i + 1, rfl⟩
  constructor
  · intro e he
    obtain ⟨n, hn, t, -, rfl⟩ := exists_of_mem_forall₂ h.nodes he
    exact ⟨n.id, attr_flowElement t n, (hids n hn).isTrimmed⟩
  · intro id hid
    obtain ⟨i, rfl⟩ := hconnector id hid
    exact isTrimmed_idOf i
  · rw [h.connectorIds_eq]
    exact hwell.nodup_edge_ids
  · intro n _ hmem
    obtain ⟨i, hi⟩ := hconnector _ hmem
    exact idOf_ne_attachmentId i n hi.symm

/-- The starts of the document are the start events of the flow. -/
lemma length_starts (h : Depicts d g) :
    (Repair.starts d).length = g.nodeList.countP fun n => n.target == .startEvent := by
  rw [Repair.starts, ← List.countP_eq_length_filter]
  have hnodes := h.nodes
  generalize g.nodeList = ns at hnodes ⊢
  generalize d.flowNodes = es at hnodes ⊢
  induction hnodes with
  | nil => rfl
  | @cons n e ns es hwrites _ ih =>
    rw [List.countP_cons, List.countP_cons, ih]
    obtain ⟨t, ht, rfl⟩ := hwrites
    rw [localName_flowElement (Repair.sound_of_standardTemplate? ht)]
    have htag : (t.tag == "startEvent") = (n.target == .startEvent) := by
      revert ht
      cases n.target <;> rintro ⟨⟩ <;> decide
    rw [htag]

end Depicts

end Flow

end IntegrationFlow.Bpmn
