import Mathlib
import IntegrationFlow.Proofs.Bpmn.Generator
import IntegrationFlow.Proofs.Classification
import IntegrationFlow.Proofs.Layout.Placement

/-!
# Ids of a written document

The nodes and connectors of a document, its frame and its diagram share one space of ids. The ids of
nodes come from records and are kept apart from each other alone; all others are made up by the
document. So an id stands twice in a document exactly if a node is named as something that the
document names itself.
-/

namespace IntegrationFlow.Bpmn

open Xml (Element elementsIn)

/-! ### Ids below an element -/

/-- The ids of an element and of all elements below it. -/
def idsIn (e : Element) : List String := (e :: e.descendants).filterMap fun x => x.attr "id"

/-- The ids of an element are its own and those of its child elements. -/
lemma idsIn_eq (e : Element) : idsIn e = (e.attr "id").toList ++ e.elements.flatMap idsIn := by
  rw [idsIn, List.filterMap_cons, e.descendants_eq_flatMap, List.filterMap_flatMap]
  cases e.attr "id" <;> rfl

/-- Only its own id stands in an element whose child elements have none. -/
lemma idsIn_of_forall {e : Element} (h : ∀ x ∈ e.elements, idsIn x = []) :
    idsIn e = (e.attr "id").toList := by
  rw [idsIn_eq, List.flatMap_eq_nil_iff.mpr h, List.append_nil]

lemma idsIn_extensionElement (entries : List (String × String)) :
    idsIn (extensionElement entries) = [] := by
  refine idsIn_of_forall fun x hx => ?_
  rw [elements_extensionElement] at hx
  obtain ⟨e, -, rfl⟩ := List.mem_map.mp hx
  rfl

lemma idsIn_flowElement (t : Template) (n : Node) : idsIn (flowElement t n) = [n.id] := by
  refine idsIn_of_forall fun x hx => ?_
  rw [Element.elements_eq, flowElement, Xml.elementsIn_map_element] at hx
  simp only [List.mem_append, List.mem_singleton, List.mem_map, Option.mem_toList,
    Option.map_eq_some_iff] at hx
  rcases hx with ((rfl | ⟨id, -, rfl⟩) | ⟨id, -, rfl⟩) | ⟨event, -, rfl⟩
  · exact idsIn_extensionElement _
  · rfl
  · rfl
  · rfl

lemma idsIn_connectorOf (e : Edge) : idsIn (connectorOf e) = [e.id] := by
  unfold connectorOf
  cases e.condition <;> rfl

/-! ### Ids of a diagram -/

/-- The id of the shape of a node or participant. -/
def shapeId (id : String) : String := "BPMNShape_" ++ id

/-- The id of the line of a connector. -/
def lineId (id : String) : String := "BPMNEdge_" ++ id

lemma idsIn_shapeElement (id : String) (b : Layout.Bounds Float) :
    idsIn (shapeElement id b) = [shapeId id] := rfl

lemma idsIn_diagramEdge (id source target : String) (points : List (Layout.Point Float)) :
    idsIn (diagramEdge id source target points) = [lineId id] := by
  refine idsIn_of_forall fun x hx => ?_
  obtain ⟨p, -, rfl⟩ : ∃ p ∈ points, waypoint p = x := by
    simpa [Element.elements_eq, diagramEdge, elementsIn, List.filterMap_map] using hx
  rfl

/-- The participants of every document. -/
def participantIds : List String :=
  ["Participant_Sender", "Participant_Receiver", "Participant_Process"]

/-- The ids in the frame of every document, the shapes of the participants apart. -/
def frameIds : List String :=
  ["Definitions_1", "Collaboration_1", "Process_1", "BPMNDiagram_1", "BPMNPlane_1"] ++
    participantIds

/-- A document has the ids of its frame, and those of the content of its process and plane. -/
lemma perm_idsIn_ofContent (m : FlowMeta) (extent : Option (Layout.Bounds Float))
    (process plane : List Element) :
    (idsIn (Document.ofContent m extent process plane).root).Perm
      (frameIds ++ process.flatMap idsIn ++
        (participantIds.map shapeId ++ plane.flatMap idsIn)) := by
  have hcollaboration : idsIn (collaboration m) = "Collaboration_1" :: participantIds := rfl
  have hprocess : idsIn (processElement process) = "Process_1" :: process.flatMap idsIn := by
    rw [idsIn_eq, Element.elements_eq, processElement, Xml.elementsIn_map_element,
      List.flatMap_cons, idsIn_extensionElement, List.nil_append]
    rfl
  have hdiagram : idsIn (diagramElement extent plane) = "BPMNDiagram_1" :: "BPMNPlane_1" ::
      shapeId "Participant_Process" :: shapeId "Participant_Sender" ::
        shapeId "Participant_Receiver" :: plane.flatMap idsIn := by
    rw [idsIn_eq, Element.elements_eq, diagramElement, Xml.elementsIn_element, Xml.elementsIn_nil,
      List.flatMap_singleton, idsIn_eq, Element.elements_eq, Xml.elementsIn_map_element]
    rfl
  have hroot : idsIn (Document.ofContent m extent process plane).root = "Definitions_1" ::
      (idsIn (collaboration m) ++ (idsIn (processElement process) ++
        (idsIn (diagramElement extent plane) ++ []))) := by
    rw [idsIn_eq, Element.elements_eq]
    rfl
  rw [hroot, hcollaboration, hprocess, hdiagram, List.perm_iff_count]
  intro id
  simp only [frameIds, participantIds, List.count_append, List.count_cons, List.map_cons,
    List.map_nil, List.count_nil]
  ring

/-! ### Ids that a document makes up -/

lemma append_ne_of_beginsWith {start s : String} (h : Text.beginsWith start s = false)
    (a : String) : start ++ a ≠ s := by
  rintro rfl
  rw [Text.beginsWith, String.toList_append, Bool.eq_false_iff, ne_eq,
    List.isPrefixOf_iff_prefix] at h
  exact h (List.prefix_append ..)

lemma shapeId_injective : Function.Injective shapeId :=
  fun _ _ h => (String.append_right_inj _).mp h

lemma lineId_injective : Function.Injective lineId :=
  fun _ _ h => (String.append_right_inj _).mp h

lemma shapeId_ne_lineId (a b : String) : shapeId a ≠ lineId b := by
  refine append_ne_of_beginsWith ?_ a
  rw [Text.beginsWith, lineId, String.toList_append]
  rfl

lemma idOf_ne_shapeId (i : Nat) (a : String) : Edge.idOf i ≠ shapeId a := by
  refine append_ne_of_beginsWith ?_ _
  rw [Text.beginsWith, shapeId, String.toList_append]
  rfl

lemma idOf_ne_lineId (i : Nat) (a : String) : Edge.idOf i ≠ lineId a := by
  refine append_ne_of_beginsWith ?_ _
  rw [Text.beginsWith, lineId, String.toList_append]
  rfl

/-- No id of the frame is made up for a connector, a shape or a line. -/
lemma ne_of_mem_frameIds {id : String} (h : id ∈ frameIds) :
    (∀ i, Edge.idOf i ≠ id) ∧ (∀ a, shapeId a ≠ id) ∧ ∀ a, lineId a ≠ id := by
  have hstarts : ∀ id ∈ frameIds, Text.beginsWith "SequenceFlow_" id = false ∧
      Text.beginsWith "BPMNShape_" id = false ∧ Text.beginsWith "BPMNEdge_" id = false := by
    decide
  obtain ⟨hedge, hshape, hline⟩ := hstarts id h
  exact ⟨fun i => append_ne_of_beginsWith hedge _, append_ne_of_beginsWith hshape,
    append_ne_of_beginsWith hline⟩

/-- The ids that the document of a flow has besides those of the nodes: of its frame, of the
connectors, and of the shapes and lines that stand for participants, nodes and connectors. -/
def madeIds (g : FlowGraph) : List String :=
  frameIds ++ g.edgeList.map Edge.id ++
    (participantIds ++ g.nodeList.map Node.id).map shapeId ++
    (g.edgeList.map Edge.id).map lineId

section Flow

variable {g : FlowGraph} {p : Layout.Positions Float} {m : FlowMeta} {d : Document}
  {manifest : Manifest}

lemma exists_idOf_of_mem (hwell : g.WellFormed) {id : String} (h : id ∈ g.edgeList.map Edge.id) :
    ∃ i, Edge.idOf i = id := by
  rw [hwell.edge_ids] at h
  obtain ⟨i, -, rfl⟩ := List.mem_map.mp h
  exact ⟨i + 1, rfl⟩

/-- What a document makes up is distinct, unless a node is named as a participant. -/
lemma nodup_madeIds (hwell : g.WellFormed)
    (hfree : ∀ id ∈ g.nodeList.map Node.id, id ∉ participantIds) : (madeIds g).Nodup := by
  -- each of the four parts is distinct, and its ids begin as no id of another part does
  have hedges := hwell.nodup_edge_ids
  have hdrawn : (participantIds ++ g.nodeList.map Node.id).Nodup := by
    refine List.Nodup.append (by decide) (hwell.keys_eq ▸ hwell.keys_nodup) ?_
    exact fun id hid hnode => hfree id hnode hid
  have hframe : frameIds.Disjoint (g.edgeList.map Edge.id) := by
    intro id hid hedge
    obtain ⟨i, hi⟩ := exists_idOf_of_mem hwell hedge
    exact (ne_of_mem_frameIds hid).1 i hi
  have hshapes : (frameIds ++ g.edgeList.map Edge.id).Disjoint
      ((participantIds ++ g.nodeList.map Node.id).map shapeId) := by
    intro id hid hshape
    obtain ⟨a, -, rfl⟩ := List.mem_map.mp hshape
    rcases List.mem_append.mp hid with hid | hid
    · exact (ne_of_mem_frameIds hid).2.1 a rfl
    · obtain ⟨i, hi⟩ := exists_idOf_of_mem hwell hid
      exact idOf_ne_shapeId i a hi
  refine List.Nodup.append (List.Nodup.append (List.Nodup.append (by decide) hedges hframe)
    (hdrawn.map shapeId_injective) hshapes) (hedges.map lineId_injective) ?_
  intro id hid hline
  obtain ⟨a, -, rfl⟩ := List.mem_map.mp hline
  rcases List.mem_append.mp hid with hid | hid
  · rcases List.mem_append.mp hid with hid | hid
    · exact (ne_of_mem_frameIds hid).2.2 a rfl
    · obtain ⟨i, hi⟩ := exists_idOf_of_mem hwell hid
      exact idOf_ne_lineId i a hi
  · obtain ⟨b, -, hb⟩ := List.mem_map.mp hid
    exact shapeId_ne_lineId b a hb

lemma participantIds_subset_madeIds (g : FlowGraph) : participantIds ⊆ madeIds g := by
  intro id hid
  simp only [madeIds, frameIds, List.mem_append, hid, or_true, true_or]

/-! ### Ids of a flow -/

lemma idsIn_of_renderNode {n : Node} {parts : Element × Element}
    (h : renderNode [] p n = .ok parts) :
    idsIn parts.1 = [n.id] ∧ idsIn parts.2 = [shapeId n.id] := by
  unfold renderNode at h
  split at h
  · exact absurd h (by simp)
  · obtain ⟨position, -, hparts⟩ := bind_eq_ok_iff.mp h
    obtain rfl := Except.ok.inj hparts
    exact ⟨idsIn_flowElement .., idsIn_shapeElement ..⟩

lemma idsIn_of_renderEdge {e : Edge} {parts : Element × Element}
    (h : renderEdge p e = .ok parts) : idsIn parts.1 = [e.id] ∧ idsIn parts.2 = [lineId e.id] := by
  obtain ⟨points, -, hparts⟩ := bind_eq_ok_iff.mp h
  obtain rfl := Except.ok.inj hparts
  exact ⟨idsIn_connectorOf e, idsIn_diagramEdge ..⟩

lemma flatMap_eq_map_of_forall₂ {α β γ : Type*} {r : α → β → Prop} {f : α → γ} {h : β → List γ}
    (hr : ∀ a b, r a b → h b = [f a]) {as : List α} {bs : List β} (hlists : List.Forall₂ r as bs) :
    bs.flatMap h = as.map f := by
  induction hlists with
  | nil => rfl
  | cons hab _ ih => rw [List.flatMap_cons, hr _ _ hab, ih, List.map_cons, List.singleton_append]

/-- A document has the ids of the nodes of its flow and those that it makes up. -/
lemma perm_idsIn_of_generate (h : generate [] g p m = .ok (d, manifest)) :
    (idsIn d.root).Perm (g.nodeList.map Node.id ++ madeIds g) := by
  obtain ⟨nodes, hnodes, h⟩ := bind_eq_ok_iff.mp h
  obtain ⟨edges, hedges, h⟩ := bind_eq_ok_iff.mp h
  obtain ⟨rfl, -⟩ := Prod.mk.inj (Except.ok.inj h)
  have hnodes := (mapM_eq_ok_iff.mp hnodes).imp fun n parts => idsIn_of_renderNode
  have hedges := (mapM_eq_ok_iff.mp hedges).imp fun e parts => idsIn_of_renderEdge
  have hprocess : ((nodes ++ edges).map (·.1)).flatMap idsIn
      = g.nodeList.map Node.id ++ g.edgeList.map Edge.id := by
    rw [List.flatMap_map, List.flatMap_append, flatMap_eq_map_of_forall₂ (fun _ _ h => h.1) hnodes,
      flatMap_eq_map_of_forall₂ (fun _ _ h => h.1) hedges]
  have hplane : ((nodes ++ edges).map (·.2)).flatMap idsIn
      = g.nodeList.map (fun n => shapeId n.id) ++ g.edgeList.map fun e => lineId e.id := by
    rw [List.flatMap_map, List.flatMap_append, flatMap_eq_map_of_forall₂ (fun _ _ h => h.2) hnodes,
      flatMap_eq_map_of_forall₂ (fun _ _ h => h.2) hedges]
  refine (perm_idsIn_ofContent ..).trans (List.perm_iff_count.mpr fun id => ?_)
  rw [hprocess, hplane]
  simp only [madeIds, List.map_append, List.map_map, Function.comp_def, List.count_append]
  ring

/-- A document has an id twice exactly if a node is named as something that it names itself. -/
lemma nodup_idsIn_iff (hwell : g.WellFormed) (h : generate [] g p m = .ok (d, manifest)) :
    (idsIn d.root).Nodup ↔ ∀ id ∈ g.nodeList.map Node.id, id ∉ madeIds g := by
  rw [(perm_idsIn_of_generate h).nodup_iff]
  constructor
  · intro hnodup id hid
    exact List.disjoint_of_nodup_append hnodup hid
  · intro hfree
    refine List.Nodup.append (hwell.keys_eq ▸ hwell.keys_nodup) ?_ fun id => hfree id
    exact nodup_madeIds hwell fun id hid hp => hfree id hid (participantIds_subset_madeIds g hp)

end Flow

open Classification (Mapper MappingTable)

/-- Classification makes up no id and takes none away. -/
lemma madeIds_apply (mapper : Mapper) (g : FlowGraph) : madeIds (mapper.apply g) = madeIds g := by
  rw [madeIds, mapper.map_id_apply]
  rfl

section Records

variable {records : List Record} {acyclic : Option Bool} {g : FlowGraph} {table : MappingTable}
  {c : Layout.LayoutConfig Float}

/-- Every flow is classified, drawn and written. -/
lemma exists_written (hbuild : FlowGraph.build records acyclic = .ok g)
    (htable : table.IsResolved) (hc : c.fault? = none) (m : FlowMeta) :
    ∃ p d manifest, Layout.place c (Mapper.apply { table } g) = .ok p ∧
      generate [] (Mapper.apply { table } g) p m = .ok (d, manifest) := by
  have hwell : (Mapper.apply { table } g).WellFormed :=
    Mapper.wellFormed_apply _ (wellFormed_of_build hbuild)
  have htypes : ∀ n ∈ (Mapper.apply { table } g).nodeList, n.target ≠ .unresolved := by
    intro n hn
    obtain ⟨x, -, rfl⟩ := Mapper.mem_nodeList_apply.mp hn
    exact Mapper.target_classify_ne_unresolved table x htable
  obtain ⟨p, hplace, hplaces⟩ := Layout.exists_place hwell hc
  obtain ⟨d, manifest, hgenerate⟩ := exists_generate hwell htypes hplaces m
  exact ⟨p, d, manifest, hplace, hgenerate⟩

/-- The ids in the document of a flow, said of the flow before it is classified. -/
lemma ids_of_written (hbuild : FlowGraph.build records acyclic = .ok g) {mapper : Mapper}
    {p : Layout.Positions Float} {m : FlowMeta} {d : Document} {manifest : Manifest}
    (h : generate [] (mapper.apply g) p m = .ok (d, manifest)) :
    (idsIn d.root).Perm (g.nodeList.map Node.id ++ madeIds g) ∧
      ((idsIn d.root).Nodup ↔ ∀ id ∈ g.nodeList.map Node.id, id ∉ madeIds g) := by
  have hperm := perm_idsIn_of_generate h
  have hiff := nodup_idsIn_iff (mapper.wellFormed_apply (wellFormed_of_build hbuild)) h
  rw [mapper.map_id_apply, madeIds_apply] at hperm hiff
  exact ⟨hperm, hiff⟩

/-- Records that make a flow end in a document with the ids of the nodes and those that the document
makes up. They are distinct exactly if no node is named as something that the document names
itself. -/
theorem written_ids_distinct_iff (hbuild : FlowGraph.build records acyclic = .ok g)
    (htable : table.IsResolved) (hc : c.fault? = none) (m : FlowMeta) :
    ∃ p d manifest, Layout.place c (Mapper.apply { table } g) = .ok p ∧
      generate [] (Mapper.apply { table } g) p m = .ok (d, manifest) ∧
      (idsIn d.root).Perm (g.nodeList.map Node.id ++ madeIds g) ∧
      ((idsIn d.root).Nodup ↔ ∀ id ∈ g.nodeList.map Node.id, id ∉ madeIds g) := by
  obtain ⟨p, d, manifest, hplace, hgenerate⟩ := exists_written hbuild htable hc m
  exact ⟨p, d, manifest, hplace, hgenerate, ids_of_written hbuild hgenerate⟩

end Records

/-- Three components in a row, two of them named as a document names connectors and shapes. -/
def nearlyNamed : List Record :=
  [{ id := "in", name := "In", sourceType := "start", document := "a",
     dialect := some .webMethods, role := .start,
     links := [⟨"SequenceFlow_3", .sequence, none⟩] },
   { id := "SequenceFlow_3", name := "Map", sourceType := "map", document := "a",
     dialect := some .webMethods, links := [⟨"BPMNShape_out", .sequence, none⟩] },
   { id := "BPMNShape_out", name := "Out", sourceType := "end", document := "a",
     dialect := some .webMethods, role := .finish }]

theorem nearlyNamed_ids_distinct : MappingTable.standard.IsResolved ∧
    (Layout.LayoutConfig.standard : Layout.LayoutConfig Float).fault? = none ∧
    ∃ g p d manifest, FlowGraph.build nearlyNamed = .ok g ∧
      Layout.place .standard (Mapper.apply { table := .standard } g) = .ok p ∧
      generate [] (Mapper.apply { table := .standard } g) p {} = .ok (d, manifest) ∧
      (idsIn d.root).length = 21 ∧ (idsIn d.root).Nodup := by
  have htable : MappingTable.standard.IsResolved := by decide +kernel
  have hids : (FlowGraph.build nearlyNamed).toOption.map (fun g =>
      (g.nodeList.map Node.id, g.edgeList.map Edge.id))
      = some (["in", "SequenceFlow_3", "BPMNShape_out"], ["SequenceFlow_1", "SequenceFlow_2"]) := by
    decide +kernel
  refine ⟨htable, Layout.fault?_standard, ?_⟩
  cases hbuild : FlowGraph.build nearlyNamed with
  | error e => simp [hbuild, Except.toOption] at hids
  | ok g =>
    rw [hbuild] at hids
    obtain ⟨hnodes, hedges⟩ := Prod.mk.inj (Option.some.inj hids)
    obtain ⟨p, d, manifest, hplace, hgenerate, hperm, hiff⟩ :=
      written_ids_distinct_iff hbuild htable Layout.fault?_standard {}
    refine ⟨g, p, d, manifest, rfl, hplace, hgenerate, ?_, hiff.mpr ?_⟩
    · rw [hperm.length_eq, madeIds, hnodes, hedges]
      decide +kernel
    · rw [madeIds, hnodes, hedges]
      decide +kernel

/-- A component that is named as the process of every document. -/
def processNamed : List Record :=
  [{ id := "Process_1", name := "", sourceType := "", document := "", dialect := none,
     role := .start }]

theorem processNamed_ids_clash : ∃ g p d manifest, FlowGraph.build processNamed = .ok g ∧
    Layout.place .standard (Mapper.apply { table := .standard } g) = .ok p ∧
    generate [] (Mapper.apply { table := .standard } g) p {} = .ok (d, manifest) ∧
    (idsIn d.root).count "Process_1" = 2 ∧ ¬ (idsIn d.root).Nodup := by
  have hids : (FlowGraph.build processNamed).toOption.map (fun g =>
      (g.nodeList.map Node.id, g.edgeList.map Edge.id)) = some (["Process_1"], []) := by
    cbv
  cases hbuild : FlowGraph.build processNamed with
  | error e => simp [hbuild, Except.toOption] at hids
  | ok g =>
    rw [hbuild] at hids
    obtain ⟨hnodes, hedges⟩ := Prod.mk.inj (Option.some.inj hids)
    obtain ⟨p, d, manifest, hplace, hgenerate⟩ :=
      exists_written hbuild (by decide +kernel : MappingTable.standard.IsResolved)
        Layout.fault?_standard {}
    obtain ⟨hperm, hiff⟩ := ids_of_written hbuild hgenerate
    refine ⟨g, p, d, manifest, rfl, hplace, hgenerate, ?_, fun hnodup => ?_⟩
    · rw [hperm.count_eq, madeIds, hnodes, hedges]
      decide +kernel
    · have hfree := hiff.mp hnodup
      rw [madeIds, hnodes, hedges] at hfree
      exact hfree "Process_1" (by decide) (by decide +kernel)

end IntegrationFlow.Bpmn
