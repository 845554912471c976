import Mathlib
import IntegrationFlow.Proofs.Bpmn.Generator
import IntegrationFlow.Proofs.Classification
import IntegrationFlow.Proofs.Layout.Placement
import IntegrationFlow.Proofs.Xml.Reread

/-!
# A document carries its flow

The text of a document that was written for a flow is enough to get the flow back. Every name in
such a document can be written, so the text is read without an issue; and whatever white space is
lost on the way, the nodes, the connectors and the properties are seen as before.
-/

namespace IntegrationFlow.Bpmn

open Xml (Element Content Reread IsName)

/-! ### Names in a document -/

/-- A name and distinct keys that can stand in a tag. -/
def IsTag (name : String) (keys : List String) : Prop :=
  IsName name ∧ (∀ key ∈ keys, IsName key) ∧ keys.Nodup

instance (name : String) (keys : List String) : Decidable (IsTag name keys) :=
  inferInstanceAs (Decidable (_ ∧ _ ∧ _))

lemma isNamed_of_isTag {e : Element} (htag : IsTag e.name (OrderedMap.keys e.attributes))
    (hchildren : ∀ x ∈ e.elements, x.IsNamed) : e.IsNamed :=
  .mk htag.1 htag.2.1 htag.2.2 hchildren

lemma isNamed_leaf {e : Element} (htag : IsTag e.name (OrderedMap.keys e.attributes))
    (hleaf : e.elements = []) : e.IsNamed :=
  isNamed_of_isTag htag (by simp [hleaf])

lemma isTag_nil {name : String} (h : IsName name) : IsTag name [] := ⟨h, by simp, List.nodup_nil⟩

lemma isNamed_ofText {name : String} (h : IsName name) (s : String) :
    (Element.ofText name s).IsNamed :=
  isNamed_leaf (isTag_nil h) rfl

lemma isNamed_property (key value : String) : (property key value).IsNamed := by
  refine isNamed_of_isTag (by decide : IsTag "ifl:property" []) ?_
  change ∀ x ∈ [Element.ofText "key" key, .ofText "value" value], x.IsNamed
  simp only [List.forall_mem_cons, List.not_mem_nil, false_imp_iff, implies_true, and_true]
  exact ⟨isNamed_ofText (by decide) _, isNamed_ofText (by decide) _⟩

lemma isNamed_extensionElement (entries : List (String × String)) :
    (extensionElement entries).IsNamed := by
  refine isNamed_of_isTag (by decide : IsTag "bpmn2:extensionElements" []) ?_
  rw [elements_extensionElement]
  intro x hx
  obtain ⟨e, -, rfl⟩ := List.mem_map.mp hx
  exact isNamed_property ..

/-- The tag and the event of a standard template can be written. -/
lemma isName_of_standardTemplate? {target : TargetType} {t : Template}
    (h : standardTemplate? target = some t) :
    IsName ("bpmn2:" ++ t.tag) ∧ ∀ event ∈ t.eventDefinition, IsName ("bpmn2:" ++ event) := by
  cases target <;> simp only [standardTemplate?, Option.some.injEq, reduceCtorEq] at h <;>
    subst h <;> exact ⟨by decide, by decide⟩

lemma isNamed_of_writes {n : Node} {e : Element} (h : Writes n e) : e.IsNamed := by
  obtain ⟨t, ht, rfl⟩ := h
  obtain ⟨htag, hevent⟩ := isName_of_standardTemplate? ht
  have hkeys : IsTag "bpmn2:task" ["id", "name"] := by decide
  refine isNamed_of_isTag ⟨htag, hkeys.2⟩ ?_
  rw [Element.elements_eq, flowElement, Xml.elementsIn_map_element]
  intro x hx
  simp only [List.mem_append, List.mem_singleton, List.mem_map, Option.mem_toList,
    Option.map_eq_some_iff] at hx
  rcases hx with ((rfl | ⟨id, -, rfl⟩) | ⟨id, -, rfl⟩) | ⟨event, hmem, rfl⟩
  · exact isNamed_extensionElement _
  · exact isNamed_ofText (by decide) _
  · exact isNamed_ofText (by decide) _
  · exact isNamed_leaf (isTag_nil (hevent event hmem)) rfl

lemma isNamed_connectorOf (e : Edge) : (connectorOf e).IsNamed := by
  have hkind : (extensionElement [("edgeKind", e.kind.name)]).IsNamed :=
    isNamed_extensionElement _
  unfold connectorOf
  cases e.condition with
  | none =>
    refine isNamed_of_isTag
      (by decide : IsTag "bpmn2:sequenceFlow" ["id", "sourceRef", "targetRef"]) ?_
    exact List.forall_mem_singleton.mpr hkind
  | some c =>
    refine isNamed_of_isTag
      (by decide : IsTag "bpmn2:sequenceFlow" ["id", "name", "sourceRef", "targetRef"]) ?_
    refine List.forall_mem_cons.mpr ⟨hkind, List.forall_mem_singleton.mpr ?_⟩
    exact isNamed_leaf (by decide : IsTag "bpmn2:conditionExpression" ["xsi:type"]) rfl

lemma isNamed_shapeElement (id : String) (b : Layout.Bounds Float) :
    (shapeElement id b).IsNamed := by
  refine isNamed_of_isTag (by decide : IsTag "bpmndi:BPMNShape" ["bpmnElement", "id"]) ?_
  refine List.forall_mem_singleton.mpr ?_
  exact isNamed_leaf (by decide : IsTag "dc:Bounds" ["height", "width", "x", "y"]) rfl

lemma isNamed_diagramEdge (id source target : String) (points : List (Layout.Point Float)) :
    (diagramEdge id source target points).IsNamed := by
  have hpoint (p : Layout.Point Float) : (waypoint p).IsNamed :=
    isNamed_leaf (by decide : IsTag "di:waypoint" ["x", "xsi:type", "y"]) rfl
  refine isNamed_of_isTag (by decide : IsTag "bpmndi:BPMNEdge"
    ["bpmnElement", "id", "sourceElement", "targetElement"]) ?_
  have helements : (diagramEdge id source target points).elements = points.map waypoint := by
    rw [Element.elements_eq, ← Xml.elementsIn_map_element (points.map waypoint), List.map_map]
    rfl
  rw [helements]
  intro x hx
  obtain ⟨p, -, rfl⟩ := List.mem_map.mp hx
  exact hpoint p

lemma isNamed_collaboration (m : FlowMeta) : (collaboration m).IsNamed := by
  refine isNamed_of_isTag (by decide : IsTag "bpmn2:collaboration" ["id", "name"]) ?_
  refine List.forall_mem_cons.mpr ⟨isNamed_extensionElement _, ?_⟩
  have hparticipant (id kind name : String) : (participant id kind name).IsNamed :=
    isNamed_leaf (by decide : IsTag "bpmn2:participant" ["id", "ifl:type", "name"]) rfl
  refine List.forall_mem_cons.mpr ⟨hparticipant .., ?_⟩
  refine List.forall_mem_cons.mpr ⟨hparticipant .., ?_⟩
  refine List.forall_mem_singleton.mpr ?_
  exact isNamed_leaf
    (by decide : IsTag "bpmn2:participant" ["id", "ifl:type", "name", "processRef"]) rfl

/-- The frame of a document adds no name that cannot be written. -/
lemma isNamed_ofContent {process plane : List Element} (hprocess : ∀ x ∈ process, x.IsNamed)
    (hplane : ∀ x ∈ plane, x.IsNamed) (m : FlowMeta) (extent : Option (Layout.Bounds Float)) :
    (Document.ofContent m extent process plane).root.IsNamed := by
  refine isNamed_of_isTag (by decide : IsTag "bpmn2:definitions"
    ["xmlns:bpmn2", "xmlns:bpmndi", "xmlns:dc", "xmlns:di", "xmlns:ifl", "xmlns:xsi", "id"]) ?_
  refine List.forall_mem_cons.mpr ⟨isNamed_collaboration m, ?_⟩
  refine List.forall_mem_cons.mpr ⟨?_, List.forall_mem_singleton.mpr ?_⟩
  · refine isNamed_of_isTag (by decide : IsTag "bpmn2:process" ["id", "name"]) ?_
    rw [Element.elements_eq, processElement, Xml.elementsIn_map_element]
    exact List.forall_mem_cons.mpr ⟨isNamed_extensionElement _, hprocess⟩
  · refine isNamed_of_isTag (by decide : IsTag "bpmndi:BPMNDiagram" ["id", "name"]) ?_
    refine List.forall_mem_singleton.mpr ?_
    refine isNamed_of_isTag
      (by decide : IsTag "bpmndi:BPMNPlane" ["bpmnElement", "id"]) ?_
    rw [Element.elements_eq, Xml.elementsIn_map_element]
    simp only [List.mem_append, List.mem_cons, List.not_mem_nil, or_false]
    rintro x ((rfl | rfl | rfl) | hx)
    · exact isNamed_shapeElement ..
    · exact isNamed_shapeElement ..
    · exact isNamed_shapeElement ..
    · exact hplane x hx

section Flow

variable {g : FlowGraph} {p : Layout.Positions Float} {m : FlowMeta} {d : Document}
  {manifest : Manifest}

lemma isNamed_of_renderNode {n : Node} {parts : Element × Element}
    (h : renderNode [] p n = .ok parts) : parts.1.IsNamed ∧ parts.2.IsNamed := by
  refine ⟨isNamed_of_writes (writes_of_renderNode h), ?_⟩
  unfold renderNode at h
  split at h
  · exact absurd h (by simp)
  · obtain ⟨position, -, hparts⟩ := bind_eq_ok_iff.mp h
    obtain rfl := Except.ok.inj hparts
    exact isNamed_shapeElement ..

lemma isNamed_of_renderEdge {e : Edge} {parts : Element × Element}
    (h : renderEdge p e = .ok parts) : parts.1.IsNamed ∧ parts.2.IsNamed := by
  obtain ⟨points, -, hparts⟩ := bind_eq_ok_iff.mp h
  obtain rfl := Except.ok.inj hparts
  exact ⟨isNamed_connectorOf e, isNamed_diagramEdge ..⟩

/-- Every name in a document that is written for a flow can be written. -/
theorem isNamed_of_generate (h : generate [] g p m = .ok (d, manifest)) : d.root.IsNamed := by
  obtain ⟨nodes, hnodes, h⟩ := bind_eq_ok_iff.mp h
  obtain ⟨edges, hedges, h⟩ := bind_eq_ok_iff.mp h
  obtain ⟨rfl, -⟩ := Prod.mk.inj (Except.ok.inj h)
  have hparts : ∀ parts ∈ nodes ++ edges, parts.1.IsNamed ∧ parts.2.IsNamed := by
    intro parts hparts
    rcases List.mem_append.mp hparts with hparts | hparts
    · obtain ⟨n, -, hn⟩ := exists_of_mem_forall₂ (mapM_eq_ok_iff.mp hnodes) hparts
      exact isNamed_of_renderNode hn
    · obtain ⟨e, -, he⟩ := exists_of_mem_forall₂ (mapM_eq_ok_iff.mp hedges) hparts
      exact isNamed_of_renderEdge he
  refine isNamed_ofContent ?_ ?_ m p.extent?
  · exact List.forall_mem_map.mpr fun parts h => (hparts parts h).1
  · exact List.forall_mem_map.mpr fun parts h => (hparts parts h).2

end Flow

/-! ### Properties that are read back -/

/-- The properties in the extension of an element. -/
def extensionProperties? (e : Element) : Option (List (String × String)) :=
  (e.find "extensionElements").map properties

lemma propertyValue?_eq (e : Element) (key : String) :
    propertyValue? e key = (extensionProperties? e).bind fun entries => entries.lookup key := by
  rw [propertyValue?, extensionProperties?, Option.bind_map]
  rfl

/-- The parts of a property hold texts only. -/
lemma elements_of_mem_property {key value : String} {x : Element}
    (h : x ∈ (property key value).elements) : x.elements = [] := by
  have hx : x = .ofText "key" key ∨ x = .ofText "value" value := by
    simpa [Element.elements_eq, property] using h
  rcases hx with rfl | rfl <;> rfl

lemma childText_reread {e e' : Element} (h : Reread e e')
    (htexts : ∀ x ∈ e.elements, x.elements = []) (name : String) :
    childText e' name = childText e name := by
  rw [childText, childText, map_eq_map_of_rel (h.find name) fun x hx x' hreread => ?_]
  exact (hreread.text_eq (htexts x (List.mem_of_find?_eq_some hx))).symm

/-- The properties of an extension come back as they were. -/
lemma properties_reread {entries : List (String × String)} {x : Element}
    (h : Reread (extensionElement entries) x) :
    properties x = properties (extensionElement entries) := by
  have hproperty : ∀ p ∈ (extensionElement entries).findAll "property",
      ∀ x ∈ p.elements, x.elements = [] := by
    intro p hp
    have hmem := (List.mem_filter.mp hp).1
    rw [elements_extensionElement] at hmem
    obtain ⟨e, -, rfl⟩ := List.mem_map.mp hmem
    exact fun x => elements_of_mem_property
  have hall := (List.forall₂_and_left _ _).mpr ⟨hproperty, h.findAll "property"⟩
  refine (map_eq_map_of_forall₂ ?_ hall).symm
  rintro p p' ⟨htexts, hp⟩
  rw [childText_reread hp htexts, childText_reread hp htexts]

/-- The same attributes and properties are seen of both elements. -/
structure LooksAlike (e e' : Element) : Prop where
  attr_eq (key : String) : e'.attr key = e.attr key
  properties_eq : extensionProperties? e' = extensionProperties? e

lemma LooksAlike.propertyValue?_eq {e e' : Element} (h : LooksAlike e e') (key : String) :
    propertyValue? e' key = propertyValue? e key := by
  rw [Bpmn.propertyValue?_eq, h.properties_eq, Bpmn.propertyValue?_eq]

/-- An element whose extension was written for it looks the same when it comes back. -/
lemma looksAlike_of_reread {e e' : Element} (h : Reread e e')
    (hfind : ∃ entries, e.find "extensionElements" = some (extensionElement entries)) :
    LooksAlike e e' := by
  obtain ⟨entries, hfind⟩ := hfind
  refine ⟨h.sameTag.attr_eq, (map_eq_map_of_rel (h.find _) fun x hx x' hreread => ?_).symm⟩
  obtain rfl := Option.some.inj (hfind.symm.trans hx)
  exact (properties_reread hreread).symm

/-! ### Documents that are read back -/

/-- A document carries a flow: its flow nodes have the ids, the names and the types of the nodes,
and its connectors the ids, the ends, the kinds and the conditions of the edges. -/
structure Carries (d : Document) (g : FlowGraph) : Prop where
  nodes : d.flowNodes.map (fun e => (e.attr "id", e.attr "name", propertyValue? e "componentType"))
    = g.nodeList.map fun n => (some n.id, some n.displayName, some n.target.name)
  connectors : d.connectors.map (fun e => (e.attr "id", e.attr "sourceRef", e.attr "targetRef",
      propertyValue? e "edgeKind", e.attr "name"))
    = g.edgeList.map fun e => (some e.id, some e.source, some e.target, some e.kind.name,
      e.condition)

lemma find_connectorOf (e : Edge) : (connectorOf e).find "extensionElements"
    = some (extensionElement [("edgeKind", e.kind.name)]) := by
  have hname : Xml.localPart "bpmn2:extensionElements" = "extensionElements" := by decide
  refine List.find?_cons_of_pos ?_
  simp [Element.localName, hname]

lemma propertyValue?_connectorOf (e : Edge) :
    propertyValue? (connectorOf e) "edgeKind" = some e.kind.name := by
  have htrim : ∀ kind : EdgeKind, Text.trim kind.name = kind.name := by rintro ⟨⟩ <;> decide
  have hkey : Text.trim "edgeKind" = "edgeKind" := by decide
  rw [propertyValue?, find_connectorOf, Option.bind_some, properties_extensionElement,
    List.map_singleton, hkey, htrim, List.lookup_cons_self]

section Flow

variable {g : FlowGraph} {d : Document} {root : Element}

/-- What is written for a flow carries it. -/
lemma Depicts.carries (h : Depicts d g) : Carries d g := by
  constructor
  · refine (map_eq_map_of_forall₂ (fun n e hwrites => ?_) h.nodes).symm
    obtain ⟨t, ht, rfl⟩ := hwrites
    rw [propertyValue?_flowElement ht]
    rfl
  · rw [h.connectors, List.map_map]
    refine List.map_congr_left fun e _ => ?_
    obtain ⟨hid, hsource, htarget, hname⟩ := attr_connectorOf e
    rw [Function.comp_apply, hid, hsource, htarget, hname, propertyValue?_connectorOf]

/-- The flow nodes and the connectors of a written document look the same when it comes back. -/
lemma Depicts.forall₂_looksAlike (h : Depicts d g) (hroot : Reread d.root root) :
    List.Forall₂ LooksAlike d.flowNodes (Document.mk root).flowNodes ∧
      List.Forall₂ LooksAlike d.connectors (Document.mk root).connectors := by
  obtain ⟨p, hp⟩ := h.process
  obtain ⟨p', hfind, hreread⟩ := hroot.exists_find hp
  have hp' : (Document.mk root).process? = some p' := hfind
  have hnodes : List.Forall₂ Reread d.flowNodes (Document.mk root).flowNodes := by
    rw [Document.flowNodes_eq hp, Document.flowNodes_eq hp']
    exact hreread.filter_elements fun x x' hx => by
      rw [isFlowNode, isFlowNode, hx.sameTag.localName_eq]
  have hconnectors : List.Forall₂ Reread d.connectors (Document.mk root).connectors := by
    rw [Document.connectors_eq hp, Document.connectors_eq hp']
    exact hreread.filter_elements fun x x' hx => by
      rw [isConnector, isConnector, hx.sameTag.localName_eq]
  constructor
  · refine ((List.forall₂_and_left _ _).mpr ⟨fun e he => ?_, hnodes⟩).imp
      fun e e' he => looksAlike_of_reread he.2 he.1
    obtain ⟨n, -, t, -, rfl⟩ := exists_of_mem_forall₂ h.nodes he
    exact ⟨_, find_flowElement t n⟩
  · refine ((List.forall₂_and_left _ _).mpr ⟨fun e he => ?_, hconnectors⟩).imp
      fun e e' he => looksAlike_of_reread he.2 he.1
    rw [h.connectors] at he
    obtain ⟨x, -, rfl⟩ := List.mem_map.mp he
    exact ⟨_, find_connectorOf x⟩

lemma Carries.of_looksAlike {d' : Document} (h : Carries d g)
    (hnodes : List.Forall₂ LooksAlike d.flowNodes d'.flowNodes)
    (hconnectors : List.Forall₂ LooksAlike d.connectors d'.connectors) : Carries d' g := by
  constructor
  · rw [← h.nodes]
    refine (map_eq_map_of_forall₂ (fun e e' he => ?_) hnodes).symm
    rw [he.attr_eq, he.attr_eq, he.propertyValue?_eq]
  · rw [← h.connectors]
    refine (map_eq_map_of_forall₂ (fun e e' he => ?_) hconnectors).symm
    rw [he.attr_eq, he.attr_eq, he.attr_eq, he.attr_eq, he.propertyValue?_eq]

end Flow

open Classification (Mapper MappingTable) in
/-- Records that make a flow end in a text from which the flow is read back: it is classified,
drawn and written, its text is read without an issue, and what is read carries the nodes and edges
of the flow and has the properties that were written. -/
theorem printed_flow_carries {records : List Record} {acyclic : Option Bool} {g : FlowGraph}
    (hbuild : FlowGraph.build records acyclic = .ok g) {table : MappingTable}
    (htable : table.IsResolved) {c : Layout.LayoutConfig Float} (hc : c.fault? = none)
    (m : FlowMeta) (document : String) :
    ∃ p d manifest root,
      Layout.place c (Mapper.apply { table } g) = .ok p ∧
      generate [] (Mapper.apply { table } g) p m = .ok (d, manifest) ∧
      Xml.parse (Xml.print d.root) document = (some root, []) ∧
      Carries ⟨root⟩ (Mapper.apply { table } g) ∧
      (Document.mk root).flowNodes.map extensionProperties?
        = d.flowNodes.map extensionProperties? := by
  have hwell : (Mapper.apply { table } g).WellFormed :=
    Mapper.wellFormed_apply _ (wellFormed_of_build hbuild)
  have htypes : ∀ n ∈ (Mapper.apply { table } g).nodeList, n.target ≠ .unresolved := by
    intro n hn
    obtain ⟨x, -, rfl⟩ := Mapper.mem_nodeList_apply.mp hn
    exact Mapper.target_classify_ne_unresolved table x htable
  obtain ⟨p, hplace, hplaces⟩ := Layout.exists_place hwell hc
  obtain ⟨d, manifest, hgenerate⟩ := exists_generate hwell htypes hplaces m
  obtain ⟨root, hread, hroot⟩ := Xml.exists_read_print (isNamed_of_generate hgenerate)
  have hdepicts := depicts_of_generate hgenerate
  obtain ⟨hnodes, hconnectors⟩ := hdepicts.forall₂_looksAlike hroot
  refine ⟨p, d, manifest, root, hplace, hgenerate, ?_, ?_, ?_⟩
  · rw [Xml.parse, hread]
    rfl
  · exact hdepicts.carries.of_looksAlike hnodes hconnectors
  · exact (map_eq_map_of_forall₂ (fun e e' he => he.properties_eq.symm) hnodes).symm

/-- Two components with markup and white space wherever a text can stand. -/
def markupRecords : List Record :=
  [{ id := "in", name := " \"In\" <&> ", sourceType := "start", document := "a",
     dialect := some .webMethods, role := .start,
     links := [⟨"m p", .sequence, some " x < 1 &\n'y' "⟩, ⟨"m p", .error, none⟩] },
   { id := "m p", name := "<m/>\t", sourceType := "map", document := "a",
     dialect := some .webMethods,
     settings := [(" key ", .literal " \t<v>\n"), ("blank", .literal " \n "),
       ("<k>", .reference "a/\"b\"")] }]

/-- A table with one entry. -/
def mapTable : Classification.MappingTable := ⟨"1", [("map", .messageMapping)]⟩

theorem printed_markupRecords : mapTable.IsResolved ∧
    (Layout.LayoutConfig.standard : Layout.LayoutConfig Float).fault? = none ∧
    ∃ g p d manifest root, FlowGraph.build markupRecords = .ok g ∧
      Layout.place .standard (Classification.Mapper.apply { table := mapTable } g) = .ok p ∧
      generate [] (Classification.Mapper.apply { table := mapTable } g) p {} = .ok (d, manifest) ∧
      Xml.parse (Xml.print d.root) "flow.xml" = (some root, []) ∧
      (Document.mk root).flowNodes.map (fun e =>
          (e.attr "id", e.attr "name", propertyValue? e "componentType"))
        = [(some "in", some " \"In\" <&> ", some "start_event"),
           (some "m_p", some "<m/>\t", some "message_mapping")] ∧
      (Document.mk root).connectors.map (fun e => (e.attr "id", e.attr "sourceRef",
          e.attr "targetRef", propertyValue? e "edgeKind", e.attr "name"))
        = [(some "SequenceFlow_1", some "in", some "m_p", some "sequence",
             some " x < 1 &\n'y' "),
           (some "SequenceFlow_2", some "in", some "m_p", some "error", none)] := by
  have htable : mapTable.IsResolved := by decide
  have hnodes : (FlowGraph.build markupRecords).toOption.map (fun g =>
      (Classification.Mapper.apply { table := mapTable } g).nodeList.map fun n =>
        (some n.id, some n.displayName, some n.target.name))
      = some [(some "in", some " \"In\" <&> ", some "start_event"),
          (some "m_p", some "<m/>\t", some "message_mapping")] := by
    decide +kernel
  have hedges : (FlowGraph.build markupRecords).toOption.map (fun g =>
      (Classification.Mapper.apply { table := mapTable } g).edgeList)
      = some [⟨"SequenceFlow_1", "in", "m_p", .sequence, some " x < 1 &\n'y' "⟩,
          ⟨"SequenceFlow_2", "in", "m_p", .error, none⟩] := by
    decide +kernel
  refine ⟨htable, Layout.fault?_standard, ?_⟩
  cases hbuild : FlowGraph.build markupRecords with
  | error e => simp [hbuild, Except.toOption] at hnodes
  | ok g =>
    rw [hbuild] at hnodes hedges
    obtain ⟨p, d, manifest, root, hplace, hgenerate, hparse, hcarries, -⟩ :=
      printed_flow_carries hbuild htable Layout.fault?_standard {} "flow.xml"
    exact ⟨g, p, d, manifest, root, rfl, hplace, hgenerate, hparse,
      hcarries.nodes.trans (Option.some.inj hnodes),
      hcarries.connectors.trans (congrArg (List.map _) (Option.some.inj hedges))⟩

end IntegrationFlow.Bpmn
