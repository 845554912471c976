import Mathlib
import IntegrationFlow.Proofs.Reach
import IntegrationFlow.Proofs.Repair.Diagram
import IntegrationFlow.Proofs.Repair.Reference
import IntegrationFlow.Repair.Connection

/-!
# Nodes attached to the start

The second check adds a connector from the start for one loose node after the other until every
node leads to the start or is led to from it. Each new connector is listed at both of its ends, so
the process and the diagram stay in line.
-/

namespace IntegrationFlow.Repair

open Xml (Element SameTag)
open Bpmn (Document isFlowNode isConnector)

/-! ### Connection -/

/-- A connector leads from `s` to `t`. -/
def FlowsTo (flows : List (String × String)) (s t : String) : Prop := (s, t) ∈ flows

/-- A path of connectors joins a node with the start, in one direction or the other. -/
def IsConnected (start : String) (flows : List (String × String)) (node : String) : Prop :=
  Relation.ReflTransGen (FlowsTo flows) start node ∨
    Relation.ReflTransGen (FlowsTo flows) node start

lemma IsConnected.self (start : String) (flows : List (String × String)) :
    IsConnected start flows start := Or.inl .refl

/-- More connectors connect more nodes. -/
lemma IsConnected.mono {start node : String} {flows flows' : List (String × String)}
    (hsub : flows ⊆ flows') (h : IsConnected start flows node) :
    IsConnected start flows' node :=
  h.imp (Relation.ReflTransGen.mono (fun _ _ hst => hsub hst) _ _)
    (Relation.ReflTransGen.mono (fun _ _ hst => hsub hst) _ _)

/-- The two searches find the nodes that are connected. -/
theorem mem_connected_iff {start node : String} {flows : List (String × String)} :
    node ∈ connected start flows ↔ IsConnected start flows node := by
  have hvertices : ∀ s t, (s, t) ∈ flows →
      s ∈ (start :: flows.flatMap fun f => [f.1, f.2]) ∧
        t ∈ (start :: flows.flatMap fun f => [f.1, f.2]) := by
    intro s t hst
    constructor
    · exact List.mem_cons_of_mem _ (List.mem_flatMap.mpr ⟨(s, t), hst, by simp⟩)
    · exact List.mem_cons_of_mem _ (List.mem_flatMap.mpr ⟨(s, t), hst, by simp⟩)
  have hforth : ∀ s t, t ∈ ((flows.filter fun f => f.1 == s).map (·.2)) ↔ (s, t) ∈ flows := by
    simp
  have hback : ∀ s t, s ∈ ((flows.filter fun f => f.2 == t).map (·.1)) ↔ (s, t) ∈ flows := by
    simp
  rw [connected, List.mem_append, Search.mem_reach_iff, Search.mem_reach_iff, IsConnected]
  · simp only [List.mem_singleton, exists_eq_left]
    refine or_congr ?_ ?_
    · refine iff_of_eq (congrArg (Relation.ReflTransGen · start node) ?_)
      funext s t
      exact propext (hforth s t)
    · rw [← Relation.reflTransGen_swap]
      refine iff_of_eq (congrArg (Relation.ReflTransGen · node start) ?_)
      funext s t
      exact propext (hback s t)
  · exact fun t s hs => (hvertices s t ((hback s t).mp hs)).1
  · simp
  · exact fun s t ht => (hvertices s t ((hforth s t).mp ht)).2
  · simp

lemma mem_looseNodes {start n : String} {flows : List (String × String)} {nodes : List String} :
    n ∈ looseNodes start flows nodes ↔ n ∈ nodes ∧ ¬ IsConnected start flows n := by
  simp [looseNodes, mem_connected_iff]

/-! ### Which nodes are attached -/

lemma nextToAttach?_eq_none {flows : List (String × String)} {loose : List String}
    (h : nextToAttach? flows loose = none) : loose = [] := by
  rw [nextToAttach?, Option.or_eq_none_iff] at h
  exact List.head?_eq_none_iff.mp h.2

section Rounds

variable {start node n : String} {flows : List (String × String)} {nodes : List String}

/-- The new connector itself joins the node that is attached. -/
lemma isConnected_attached (start : String) (flows : List (String × String)) (node : String) :
    IsConnected start (flows ++ [(start, node)]) node :=
  .inl (.single (by simp [FlowsTo]))

/-- What is still loose after a round was loose before it, and was not attached. -/
lemma looseNodes_concat :
    looseNodes start (flows ++ [(start, node)]) ((looseNodes start flows nodes).filter (· ≠ node))
      = looseNodes start (flows ++ [(start, node)]) nodes := by
  simp only [looseNodes, List.filter_filter]
  refine List.filter_congr fun n _ => ?_
  by_cases hconn : IsConnected start (flows ++ [(start, node)]) n
  · simp [mem_connected_iff, hconn]
  · have hloose : ¬ IsConnected start flows n :=
      fun h => hconn (h.mono (List.subset_append_left ..))
    have hne : n ≠ node := fun h => hconn (h ▸ isConnected_attached ..)
    simp [mem_connected_iff, hconn, hloose, hne]

/-- Every round leaves fewer nodes loose. -/
lemma length_looseNodes_concat_lt (h : node ∈ looseNodes start flows nodes) :
    (looseNodes start (flows ++ [(start, node)]) nodes).length
      < (looseNodes start flows nodes).length := by
  rw [← looseNodes_concat]
  refine Nat.lt_of_le_of_lt (List.length_filter_le ..) ?_
  exact List.length_filter_lt_length_iff_exists.mpr ⟨node, h, by simp⟩

/-- Only the loose ones among the nodes matter. -/
lemma attachments_congr {nodes' : List String}
    (h : looseNodes start flows nodes = looseNodes start flows nodes') :
    attachments start flows nodes = attachments start flows nodes' := by
  rw [attachments, h, ← attachments]

/-- One round of the loop: the nodes that are looked at are the same in each. -/
theorem attachments_eq_match (start : String) (flows : List (String × String))
    (nodes : List String) :
    attachments start flows nodes =
      match nextToAttach? flows (looseNodes start flows nodes) with
      | none => []
      | some node => node :: attachments start (flows ++ [(start, node)]) nodes := by
  rw [attachments]
  split
  · rename_i hnext
    rw [hnext]
  · rename_i node hnext
    rw [hnext, attachments_congr looseNodes_concat]

/-- Induction over the rounds of the loop. It ends when no node is loose. -/
theorem attachments_induction {motive : List (String × String) → List String → Prop}
    (stop : ∀ flows, looseNodes start flows nodes = [] → motive flows [])
    (round : ∀ flows node, nextToAttach? flows (looseNodes start flows nodes) = some node →
      motive (flows ++ [(start, node)]) (attachments start (flows ++ [(start, node)]) nodes) →
        motive flows (node :: attachments start (flows ++ [(start, node)]) nodes))
    (flows : List (String × String)) : motive flows (attachments start flows nodes) := by
  induction hlength : (looseNodes start flows nodes).length using Nat.strong_induction_on
    generalizing flows with
  | _ length ih =>
    rw [attachments_eq_match]
    split
    · rename_i hnext
      exact stop flows (nextToAttach?_eq_none hnext)
    · rename_i node hnext
      have hlt := length_looseNodes_concat_lt (mem_of_nextToAttach?_eq_some hnext)
      exact round flows node hnext (ih _ (hlength ▸ hlt) _ rfl)

/-- Only nodes without a connection are attached. -/
lemma mem_attachments (h : n ∈ attachments start flows nodes) :
    n ∈ nodes ∧ ¬ IsConnected start flows n := by
  refine attachments_induction
    (motive := fun flows found => n ∈ found → n ∈ nodes ∧ ¬ IsConnected start flows n)
    (fun _ _ h => absurd h List.not_mem_nil) (fun flows node hnext ih h => ?_) flows h
  rcases List.mem_cons.mp h with rfl | h
  · exact mem_looseNodes.mp (mem_of_nextToAttach?_eq_some hnext)
  · exact ⟨(ih h).1, fun hconn => (ih h).2 (hconn.mono (List.subset_append_left ..))⟩

/-- No node is attached twice. -/
lemma nodup_attachments (start : String) (flows : List (String × String)) (nodes : List String) :
    (attachments start flows nodes).Nodup := by
  refine attachments_induction (motive := fun _ found => found.Nodup) (fun _ _ => List.nodup_nil)
    (fun flows node _ ih => List.nodup_cons.mpr ⟨fun h => ?_, ih⟩) flows
  exact (mem_attachments h).2 (isConnected_attached ..)

/-- Once they are attached, every node is connected with the start. -/
theorem isConnected_attachments (start : String) (flows : List (String × String))
    (nodes : List String) :
    ∀ n ∈ nodes, IsConnected start (flows ++ (attachments start flows nodes).map (start, ·)) n := by
  intro n hn
  refine attachments_induction
    (motive := fun flows found => IsConnected start (flows ++ found.map (start, ·)) n)
    (fun flows hnone => ?_) (fun flows node _ ih => ?_) flows
  · rw [List.map_nil, List.append_nil]
    by_contra hloose
    have hmem : n ∈ looseNodes start flows nodes := mem_looseNodes.mpr ⟨hn, hloose⟩
    rw [hnone] at hmem
    exact List.not_mem_nil hmem
  · rwa [List.map_cons, ← List.singleton_append, ← List.append_assoc]

/-- Nothing is attached where everything is connected. -/
lemma attachments_eq_nil (h : ∀ n ∈ nodes, IsConnected start flows n) :
    attachments start flows nodes = [] := by
  rw [List.eq_nil_iff_forall_not_mem]
  intro n hn
  obtain ⟨hmem, hloose⟩ := mem_attachments hn
  exact hloose (h n hmem)

end Rounds

/-! ### One connector more -/

lemma attachmentId_injective {n n' : String} (h : attachmentId n = attachmentId n') : n = n' :=
  String.append_right_inj _ |>.mp h

lemma isTrimmed_attachmentId {n : String} (h : Text.IsTrimmed n) :
    Text.IsTrimmed (attachmentId n) :=
  Text.IsTrimmed.append (by decide) (by decide) h

section Attach

variable (start node : String) (process : Element)

/-- The connector that attaches a node. -/
def attachment : Element := Bpmn.sequenceFlow (attachmentId node) start node .sequence none

lemma isConnector_attachment : isConnector (attachment start node) :=
  Bpmn.isConnector_sequenceFlow ..

/-- What attaching a node does to the elements of the process. -/
def listAttachment (e : Element) : Element :=
  if e.attr "id" = some start then
    addReference process.namespacePart .outgoing (attachmentId node) e
  else if e.attr "id" = some node then
    addReference process.namespacePart .incoming (attachmentId node) e
  else e

lemma attachInProcess_eq :
    attachInProcess start node process
      = (process.push (attachment start node)).mapElements (listAttachment start node process) :=
  rfl

lemma sameTag_attachInProcess : SameTag process (attachInProcess start node process) :=
  (Element.sameTag_push ..).trans (Element.sameTag_mapElements ..)

lemma sameButLists_listAttachment (e : Element) :
    SameButLists e (listAttachment start node process e) := by
  unfold listAttachment
  split
  · exact sameButLists_addReference ..
  · split
    · exact sameButLists_addReference ..
    · exact SameButLists.refl e

/-- The flow nodes are the same but for their lists. -/
lemma flowNodes_attachInProcess :
    (attachInProcess start node process).elements.filter isFlowNode
      = (process.elements.filter isFlowNode).map (listAttachment start node process) := by
  have hflow : isFlowNode (attachment start node) = false :=
    Bpmn.isFlowNode_of_isConnector (isConnector_attachment start node)
  rw [attachInProcess_eq, Element.elements_mapElements, Element.elements_push,
    Bpmn.filter_map_of_sameTag Bpmn.isFlowNode_of_sameTag
      (fun e _ => (sameButLists_listAttachment start node process e).toSameTag),
    List.filter_append, List.filter_cons_of_neg (by simp [hflow]), List.filter_nil,
    List.append_nil]

lemma connectors_attachInProcess :
    (attachInProcess start node process).elements.filter isConnector
      = (process.elements.filter isConnector ++ [attachment start node]).map
          (listAttachment start node process) := by
  rw [attachInProcess_eq, Element.elements_mapElements, Element.elements_push,
    Bpmn.filter_map_of_sameTag Bpmn.isConnector_of_sameTag
      (fun e _ => (sameButLists_listAttachment start node process e).toSameTag),
    List.filter_append, List.filter_cons_of_pos (isConnector_attachment start node),
    List.filter_nil]

/-- What is read from the connectors has the new one added. -/
lemma filterMap_connectors_attachInProcess {α : Type} {read : Element → Option α}
    (hread : ∀ {e e' : Element}, SameTag e e' → read e' = read e) :
    ((attachInProcess start node process).elements.filter isConnector).filterMap read
      = (process.elements.filter isConnector).filterMap read
        ++ (read (attachment start node)).toList := by
  rw [connectors_attachInProcess, List.filterMap_map]
  have hcongr : read ∘ listAttachment start node process = read :=
    funext fun e => hread (sameButLists_listAttachment start node process e).toSameTag
  rw [hcongr, List.filterMap_append]
  cases h : read (attachment start node) <;> simp [h]

lemma connectorEnds?_of_sameTag {e e' : Element} (h : SameTag e e') :
    connectorEnds? e' = connectorEnds? e := by
  simp only [connectorEnds?, h.attr_eq]

lemma connectorsOf_attachInProcess :
    connectorsOf (attachInProcess start node process)
      = connectorsOf process ++ [(attachmentId node, start, node)] :=
  filterMap_connectors_attachInProcess start node process connectorEnds?_of_sameTag

lemma nodeIds_attachInProcess :
    nodeIds (attachInProcess start node process) = nodeIds process := by
  rw [nodeIds, flowNodes_attachInProcess, List.filterMap_map, nodeIds]
  refine List.filterMap_congr fun e _ => ?_
  exact (sameButLists_listAttachment ..).attr_eq "id"

/-- The new connector is listed where it starts and where it ends. -/
lemma lists_listAttachment {start node : String} (process : Element) {e : Element} {id : String}
    {connectors : List (String × String × String)} {d : Direction} (hid : e.attr "id" = some id)
    (hne : node ≠ start) (htrim : Text.IsTrimmed node)
    (hfresh : attachmentId node ∉ connectorIds connectors)
    (h : Lists d (d.expected connectors id) e) :
    Lists d (d.expected (connectors ++ [(attachmentId node, start, node)]) id)
      (listAttachment start node process e) := by
  have hnew : attachmentId node ∉ d.expected connectors id :=
    fun hmem => hfresh ((expected_sublist d connectors id).subset hmem)
  have htrim' := isTrimmed_attachmentId htrim
  rw [expected_append, listAttachment, hid]
  by_cases hs : id = start
  · subst hs
    rw [if_pos rfl]
    cases d with
    | incoming =>
      simpa [Direction.expected, hne.symm] using h.add_of_ne _ _ (by decide)
    | outgoing => simpa [Direction.expected] using h.add _ hnew htrim'
  · rw [if_neg (by simpa using hs)]
    by_cases hn : id = node
    · subst hn
      rw [if_pos rfl]
      cases d with
      | incoming => simpa [Direction.expected] using h.add _ hnew htrim'
      | outgoing => simpa [Direction.expected, hs] using h.add_of_ne _ _ (by decide)
    · rw [if_neg (by simpa using hn)]
      cases d with
      | incoming => simpa [Direction.expected, hn] using h
      | outgoing => simpa [Direction.expected, hs] using h

end Attach

/-! ### All connectors -/

/-- The process of a document can take connectors from the start to the nodes. -/
structure Attachable (start : String) (nodes : List String) (process : Element) : Prop where
  identified : ∀ e ∈ process.elements, isFlowNode e → ∃ id, e.attr "id" = some id
  start_mem : start ∈ nodeIds process
  nodup : nodes.Nodup
  mem : ∀ n ∈ nodes, n ∈ nodeIds process
  ne_start : ∀ n ∈ nodes, n ≠ start
  trimmed : ∀ n ∈ nodes, Text.IsTrimmed n
  fresh : ∀ n ∈ nodes, attachmentId n ∉ connectorIds (connectorsOf process)

/-- Adds the connectors one after the other. -/
def attachAll (start : String) (nodes : List String) (process : Element) : Element :=
  nodes.foldl (fun p node => attachInProcess start node p) process

variable {start node : String} {nodes : List String} {process : Element}

/-- With one node attached, the others can be attached still. -/
lemma Attachable.step (h : Attachable start (node :: nodes) process) :
    Attachable start nodes (attachInProcess start node process) := by
  obtain ⟨hnode, hnodup⟩ := List.nodup_cons.mp h.nodup
  constructor
  · intro e he hflow
    have hmem : e ∈ (attachInProcess start node process).elements.filter isFlowNode :=
      List.mem_filter.mpr ⟨he, hflow⟩
    rw [flowNodes_attachInProcess] at hmem
    obtain ⟨x, hx, rfl⟩ := List.mem_map.mp hmem
    rw [(sameButLists_listAttachment ..).attr_eq]
    obtain ⟨hx, hflow⟩ := List.mem_filter.mp hx
    exact h.identified x hx hflow
  · rw [nodeIds_attachInProcess]
    exact h.start_mem
  · exact hnodup
  · intro n hn
    rw [nodeIds_attachInProcess]
    exact h.mem n (List.mem_cons_of_mem _ hn)
  · exact fun n hn => h.ne_start n (List.mem_cons_of_mem _ hn)
  · exact fun n hn => h.trimmed n (List.mem_cons_of_mem _ hn)
  · intro n hn hmem
    rw [connectorsOf_attachInProcess, connectorIds, List.map_append, List.mem_append] at hmem
    rcases hmem with hmem | hmem
    · exact h.fresh n (List.mem_cons_of_mem _ hn) hmem
    · obtain rfl : n = node := attachmentId_injective (by simpa using hmem)
      exact hnode hn

/-- One connector more keeps the process in line. -/
lemma Linked.attachInProcess (hlink : Linked process)
    (h : Attachable start (node :: nodes) process) :
    Linked (attachInProcess start node process) := by
  have hnode := List.mem_cons_self (a := node) (l := nodes)
  constructor
  · intro e he hconn
    have hmem : e ∈ (Repair.attachInProcess start node process).elements.filter isConnector :=
      List.mem_filter.mpr ⟨he, hconn⟩
    rw [connectors_attachInProcess] at hmem
    obtain ⟨x, hx, rfl⟩ := List.mem_map.mp hmem
    have htag := (sameButLists_listAttachment start node process x).toSameTag
    rw [Joins, attrOrEmpty_of_sameTag htag, attrOrEmpty_of_sameTag htag, nodeIds_attachInProcess]
    rcases List.mem_append.mp hx with hx | hx
    · obtain ⟨hx, hconn⟩ := List.mem_filter.mp hx
      exact hlink.joins x hx hconn
    · obtain rfl := List.mem_singleton.mp hx
      exact ⟨h.start_mem, h.mem node hnode⟩
  · intro e he hflow d
    have hmem : e ∈ (Repair.attachInProcess start node process).elements.filter isFlowNode :=
      List.mem_filter.mpr ⟨he, hflow⟩
    rw [flowNodes_attachInProcess] at hmem
    obtain ⟨x, hx, rfl⟩ := List.mem_map.mp hmem
    obtain ⟨hx, hflow⟩ := List.mem_filter.mp hx
    obtain ⟨id, hid⟩ := h.identified x hx hflow
    have hlists := hlink.lists x hx hflow d
    rw [attrOrEmpty_eq hid] at hlists
    rw [connectorsOf_attachInProcess,
      attrOrEmpty_of_sameTag (sameButLists_listAttachment ..).toSameTag, attrOrEmpty_eq hid]
    exact lists_listAttachment process hid (h.ne_start node hnode) (h.trimmed node hnode)
      (h.fresh node hnode) hlists

/-- All connectors together keep the process in line. -/
theorem Linked.attachAll (hlink : Linked process) (h : Attachable start nodes process) :
    Linked (attachAll start nodes process) := by
  induction nodes generalizing process with
  | nil => exact hlink
  | cons node nodes ih => exact ih (hlink.attachInProcess h) h.step

/-- The flow nodes are the same but for their lists. -/
lemma flowNodes_attachAll (start : String) (nodes : List String) (process : Element) :
    List.Forall₂ SameButLists (process.elements.filter isFlowNode)
      ((attachAll start nodes process).elements.filter isFlowNode) := by
  induction nodes generalizing process with
  | nil => exact List.forall₂_same.mpr fun e _ => SameButLists.refl e
  | cons node nodes ih =>
    have hrest := ih (attachInProcess start node process)
    rw [flowNodes_attachInProcess, List.forall₂_map_left_iff] at hrest
    exact hrest.imp fun e e' h => (sameButLists_listAttachment start node process e).trans h

/-- The connectors are those that there were and those that attach the nodes, in their order, all
but for what they list. -/
lemma connectors_attachAll (start : String) (nodes : List String) (process : Element) :
    ∃ kept added, (attachAll start nodes process).elements.filter isConnector = kept ++ added ∧
      List.Forall₂ SameButLists (process.elements.filter isConnector) kept ∧
      List.Forall₂ (fun node c => SameButLists (attachment start node) c) nodes added := by
  induction nodes using List.reverseRecOn with
  | nil =>
    exact ⟨_, [], (List.append_nil _).symm, List.forall₂_same.mpr fun e _ => SameButLists.refl e,
      .nil⟩
  | append_singleton nodes node ih =>
    obtain ⟨kept, added, hall, hkept, hadded⟩ := ih
    have hlast : attachAll start (nodes ++ [node]) process
        = attachInProcess start node (attachAll start nodes process) := List.foldl_append ..
    have hlist := sameButLists_listAttachment start node (attachAll start nodes process)
    rw [hlast, connectors_attachInProcess, hall, List.append_assoc, List.map_append]
    refine ⟨_, _, rfl, ?_, ?_⟩
    · rw [List.forall₂_map_right_iff]
      exact hkept.imp fun e e' h => h.trans (hlist e')
    · rw [List.forall₂_map_right_iff]
      refine List.rel_append (hadded.imp fun n e h => h.trans (hlist e)) ?_
      exact .cons (hlist _) .nil

/-- The ends of a connector that has both. -/
def flowEnd? (e : Element) : Option (String × String) := do
  return (← e.attr "sourceRef", ← e.attr "targetRef")

lemma flowEnds_eq {d : Document} {p : Element} (h : d.process? = some p) :
    flowEnds d = (p.elements.filter isConnector).filterMap flowEnd? := by
  rw [flowEnds, Document.connectors_eq h]
  rfl

lemma flowEnd?_of_sameTag {e e' : Element} (h : SameTag e e') : flowEnd? e' = flowEnd? e := by
  simp only [flowEnd?, h.attr_eq]

lemma flowEnds_attachAll (start : String) (nodes : List String) (process : Element) :
    ((attachAll start nodes process).elements.filter isConnector).filterMap flowEnd?
      = (process.elements.filter isConnector).filterMap flowEnd? ++ nodes.map (start, ·) := by
  induction nodes generalizing process with
  | nil => simp [attachAll]
  | cons node nodes ih =>
    have hstep := filterMap_connectors_attachInProcess start node process flowEnd?_of_sameTag
    have hend : flowEnd? (attachment start node) = some (start, node) := rfl
    rw [attachAll, List.foldl_cons, ← attachAll, ih, hstep, hend, List.append_assoc]
    rfl

/-! ### Ids and the diagram -/

lemma idsOutsideDiagram_listAttachment_subset (start node : String) (process e : Element) :
    idsOutsideDiagram e ⊆ idsOutsideDiagram (listAttachment start node process e) := by
  unfold listAttachment
  split
  · exact idsOutsideDiagram_insertBefore_subset ..
  · split
    · exact idsOutsideDiagram_insertBefore_subset ..
    · exact List.Subset.refl _

lemma mem_elements_attachInProcess {start node : String} {process e : Element}
    (h : e ∈ process.elements ∨ e = attachment start node) :
    listAttachment start node process e ∈ (attachInProcess start node process).elements := by
  rw [attachInProcess_eq, Element.elements_mapElements, Element.elements_push]
  exact List.mem_map_of_mem (by simpa using h)

/-- Attaching a node loses no id. -/
lemma idsOutsideDiagram_attachInProcess_subset (start node : String) (process : Element) :
    idsOutsideDiagram process ⊆ idsOutsideDiagram (attachInProcess start node process) := by
  refine idsOutsideDiagram_subset (sameTag_attachInProcess ..) fun e he => ?_
  exact ⟨_, mem_elements_attachInProcess (Or.inl he), idsOutsideDiagram_listAttachment_subset ..⟩

/-- The new connector has its id outside of the diagram. -/
lemma attachmentId_mem_ids (start node : String) {process : Element}
    (h : process.localName = "process") :
    attachmentId node ∈ idsOutsideDiagram (attachInProcess start node process) := by
  have hname : (attachment start node).localName = "sequenceFlow" := by
    simpa [isConnector] using isConnector_attachment start node
  rw [mem_idsOutsideDiagram, (sameTag_attachInProcess start node process).localName_eq, h]
  refine ⟨by decide, Or.inr ⟨_, mem_elements_attachInProcess (Or.inr rfl), ?_⟩⟩
  refine idsOutsideDiagram_listAttachment_subset _ _ _ _
    (mem_idsOutsideDiagram.mpr ⟨?_, Or.inl rfl⟩)
  rw [hname]
  decide

/-- A plane without shapes takes no line. -/
lemma attachInPlane_of_no_shape {start node : String} {plane : Element}
    (h : plane.findAll "BPMNShape" = []) : attachInPlane start node plane = plane := by
  simp [attachInPlane, elementBounds?, h]

/-- A plane gets a line at the most, and that is the line of the new connector. -/
lemma mem_elements_attachInPlane {start node : String} {plane e : Element}
    (h : e ∈ (attachInPlane start node plane).elements) :
    e ∈ plane.elements ∨ attrOrEmpty e "bpmnElement" = attachmentId node := by
  unfold attachInPlane at h
  split at h
  · rw [Element.elements_push, List.mem_append, List.mem_singleton] at h
    exact h.imp_right fun h => by rw [h]; rfl
  · exact Or.inl h

lemma sameTag_attachInPlane (start node : String) (plane : Element) :
    SameTag plane (attachInPlane start node plane) := by
  unfold attachInPlane
  split
  · exact Element.sameTag_push ..
  · exact SameTag.refl plane

lemma process?_attach {d : Document} {p : Element} (start node : String)
    (h : d.process? = some p) :
    (attach start node d).process? = some (attachInProcess start node p) := by
  rw [attach, Document.process?_modifyPlane]
  exact Document.process?_modifyProcess h (sameTag_attachInProcess ..)

/-- Attaching a node keeps the diagram in line. -/
lemma DrawsKnown.attach {d : Document} {p : Element} (hd : DrawsKnown d) (start node : String)
    (h : d.process? = some p) : DrawsKnown (attach start node d) := by
  have htag := sameTag_attachInProcess start node p
  have hids := idsOutsideDiagram_attachInProcess_subset start node p
  have hmid := hd.modifyProcess h htag hids
  intro plane hplane e he hshape
  rw [Repair.attach, idsOutsideDiagram_modifyPlane]
  cases hbefore : d.plane? with
  | none =>
    rw [← Document.plane?_modifyProcess h htag] at hbefore
    rw [Repair.attach, Document.modifyPlane_of_plane?_eq_none hbefore, hbefore] at hplane
    exact absurd hplane.symm (Option.some_ne_none plane)
  | some before =>
    rw [← Document.plane?_modifyProcess h htag] at hbefore
    rw [Repair.attach,
      Document.plane?_modifyPlane hbefore (sameTag_attachInPlane start node before)] at hplane
    obtain rfl := Option.some.inj hplane
    by_cases hroot : d.root.localName = "BPMNDiagram"
    · -- nothing is outside of such a diagram, so there was no shape to join
      have hnone : before.findAll "BPMNShape" = [] := by
        rw [Element.findAll, List.filter_eq_nil_iff]
        intro x hx hname
        have hmem := hmid before hbefore x hx (by simpa using Or.inl (beq_iff_eq.mp hname))
        exact (mem_idsOutsideDiagram.mp hmem).1 hroot
      rw [attachInPlane_of_no_shape hnone] at he
      exact hmid before hbefore e he hshape
    · rcases mem_elements_attachInPlane he with he | he
      · exact hmid before hbefore e he hshape
      · rw [he]
        refine mem_idsOutsideDiagram.mpr ⟨hroot, Or.inr ⟨attachInProcess start node p, ?_, ?_⟩⟩
        · exact List.mem_of_find?_eq_some (Document.process?_modifyProcess h htag)
        · exact attachmentId_mem_ids start node (Document.localName_of_process?_eq_some h)

/-! ### The check -/

/-- Attaches nodes one after the other. -/
def attachNodes (start : String) (nodes : List String) (d : Document) : Document :=
  nodes.foldl (fun d node => attach start node d) d

lemma process?_attachNodes {d : Document} {p : Element} (start : String) (nodes : List String)
    (h : d.process? = some p) :
    (attachNodes start nodes d).process? = some (attachAll start nodes p) := by
  induction nodes generalizing d p with
  | nil => exact h
  | cons node nodes ih => exact ih (process?_attach start node h)

/-- Attaching nodes keeps the diagram in line. -/
theorem DrawsKnown.attachNodes {d : Document} {p : Element} (hd : DrawsKnown d) (start : String)
    (nodes : List String) (h : d.process? = some p) : DrawsKnown (attachNodes start nodes d) := by
  induction nodes generalizing d p with
  | nil => exact hd
  | cons node nodes ih => exact ih (hd.attach start node h) (process?_attach start node h)

lemma flowNodeIds_eq {d : Document} {p : Element} (h : d.process? = some p) :
    flowNodeIds d = nodeIds p := by
  rw [flowNodeIds, Document.flowNodes_eq h, nodeIds]

/-- The document that the check leaves, in a flow with one start. -/
lemma unconnectedNodes_fst {d : Document} {start : String} (h : startIds d = [start]) :
    (unconnectedNodes.apply d).1
      = attachNodes start (attachments start (flowEnds d) (flowNodeIds d)) d := by
  simp only [unconnectedNodes, h]
  rfl

/-- The document that the second check leaves is the one it was given, or it has one start and nodes
were attached to it. -/
lemma unconnectedNodes_cases (d : Document) : (unconnectedNodes.apply d).1 = d ∨
    ∃ start, startIds d = [start] ∧ (unconnectedNodes.apply d).1
      = attachNodes start (attachments start (flowEnds d) (flowNodeIds d)) d := by
  by_cases hstart : ∃ start, startIds d = [start]
  · obtain ⟨start, hstart⟩ := hstart
    exact Or.inr ⟨start, hstart, unconnectedNodes_fst hstart⟩
  · left
    simp only [unconnectedNodes]
    split
    · rename_i start hs
      exact absurd ⟨start, hs⟩ hstart
    · rfl

/-- No attachment is fatal. -/
lemma hasFatal_unconnectedNodes (d : Document) :
    (unconnectedNodes.apply d).2.hasFatal = false := by
  rw [hasFatal_eq_false_iff]
  intro x hx
  simp only [unconnectedNodes] at hx
  split at hx
  · obtain ⟨n, -, rfl⟩ := List.mem_map.mp hx
    exact isFatal_repaired ..
  · exact absurd hx List.not_mem_nil

/-- A document in which everything is connected stays as it is. -/
theorem unconnectedNodes_of_connected {d : Document} {start : String} (h : startIds d = [start])
    (hconn : ∀ n ∈ flowNodeIds d, IsConnected start (flowEnds d) n) :
    unconnectedNodes.apply d = (d, []) := by
  simp only [unconnectedNodes, h, attachments_eq_nil hconn, List.foldl_nil, List.map_nil]

end IntegrationFlow.Repair
