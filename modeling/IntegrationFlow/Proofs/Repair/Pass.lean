import Mathlib
import IntegrationFlow.Proofs.Repair.Completion
import IntegrationFlow.Proofs.Repair.Connection
import IntegrationFlow.Repair.Pass

/-!
# What a pass achieves

A pass that reports nothing fatal leaves a document in which connectors and nodes are in line, every
node is complete and is connected with the one start. In such a document there is nothing left to
mend but the diagram.
-/

namespace IntegrationFlow.Repair

open Xml (Element SameTag)
open Bpmn (Document isFlowNode isConnector)

/-! ### Starts -/

/-- The starts of a document. -/
def starts (d : Document) : List Element := d.flowNodes.filter fun e => e.localName == "startEvent"

/-- What the tags of selected elements say is the same for elements with the same tags. -/
lemma map_filter_of_sameTag {α : Type} {q : Element → Bool} {g : Element → α}
    (hq : ∀ {e e' : Element}, SameTag e e' → q e' = q e)
    (hg : ∀ {e e' : Element}, SameTag e e' → g e' = g e) {es es' : List Element}
    (h : List.Forall₂ SameTag es es') : (es'.filter q).map g = (es.filter q).map g := by
  induction h with
  | nil => rfl
  | @cons e e' es es' htag _ ih =>
    rw [List.filter_cons, List.filter_cons, hq htag]
    cases q e with
    | true => simp [hg htag, ih]
    | false => simpa using ih

lemma attr_starts_eq {d d' : Document} (h : List.Forall₂ SameTag d.flowNodes d'.flowNodes) :
    (starts d').map (·.attr "id") = (starts d).map (·.attr "id") :=
  map_filter_of_sameTag (fun htag => by rw [htag.localName_eq]) (fun htag => htag.attr_eq "id") h

/-- The ids of the starts are those that they have. -/
lemma startIds_eq (d : Document) : startIds d = ((starts d).map (·.attr "id")).reduceOption := by
  rw [List.reduceOption, List.filterMap_map]
  rfl

lemma flowNodeIds_eq_of_sameTag {d d' : Document}
    (h : List.Forall₂ SameTag d.flowNodes d'.flowNodes) : flowNodeIds d' = flowNodeIds d := by
  have hmap := map_filter_of_sameTag (q := fun _ => true) (g := (·.attr "id")) (fun _ => rfl)
    (fun htag => htag.attr_eq "id") h
  rw [List.filter_true, List.filter_true] at hmap
  have hreduce := congrArg List.reduceOption hmap
  simp only [List.reduceOption, List.filterMap_map] at hreduce
  exact hreduce

lemma startCount_fst (d : Document) : (startCount.apply d).1 = d := by
  simp only [startCount]
  split <;> rfl

/-- The last check reports nothing fatal only if there is one start. -/
lemma exists_start_of_startCount {d : Document} (h : (startCount.apply d).2.hasFatal = false) :
    ∃ e, starts d = [e] := by
  simp only [startCount] at h
  split at h
  · simp [Report.hasFatal, Diagnostic.isFatal, defect] at h
  · rename_i hone
    obtain ⟨e, he, -⟩ := List.map_eq_singleton_iff.mp hone
    exact ⟨e, he⟩
  · simp [Report.hasFatal, Diagnostic.isFatal, defect] at h

lemma startCount_of_start {d : Document} {e : Element} (h : starts d = [e]) :
    startCount.apply d = (d, []) := by
  rw [starts] at h
  simp only [startCount, h, List.map_cons, List.map_nil]

/-! ### One check after the other -/

lemma run_eq {d : Document} {p : Element} (h : d.process? = some p) :
    run [] d = andThen danglingConnectors.apply (andThen unconnectedNodes.apply
      (andThen mandatoryProperties.apply startCount.apply)) d := by
  have hlast : inSequence [startCount.apply] = startCount.apply := by
    funext d
    simp [inSequence, andThen]
  have hchecks : runChecks standardChecks = andThen (fun d => (d, []))
      (inSequence (standardChecks.map Check.apply)) := foldl_andThen Check.apply standardChecks _
  have hnone : (fun d : Document => (d, ([] : Report))) d = (d, []) := rfl
  rw [run, h, Option.isNone_some, if_neg Bool.false_ne_true, List.append_nil, hchecks,
    andThen_of_fixed hnone]
  change andThen danglingConnectors.apply (andThen unconnectedNodes.apply
    (andThen mandatoryProperties.apply (inSequence [startCount.apply]))) d = _
  rw [hlast]

/-- A document without a process cannot be mended. -/
lemma exists_process?_of_run {d : Document} {extra : List Check}
    (h : (run extra d).2.hasFatal = false) : ∃ p, d.process? = some p := by
  cases hp : d.process? with
  | some p => exact ⟨p, rfl⟩
  | none => simp [run, hp, Report.hasFatal, Diagnostic.isFatal, defect] at h

section Stages

variable {d : Document} {p : Element}

lemma danglingConnectors_eq (h : d.process? = some p) :
    danglingConnectors.apply d = andThen (onProcess linkProcess) syncDiagram d := by
  simp only [danglingConnectors, h, Option.isNone_some, Bool.false_eq_true, if_false]
  rfl

lemma process?_danglingConnectors (h : d.process? = some p) :
    (danglingConnectors.apply d).1.process? = some (linkProcess p).1 := by
  rw [danglingConnectors_eq h, andThen_fst, process?_syncDiagram]
  exact process?_onProcess h (sameTag_linkProcess p)

lemma drawsKnown_danglingConnectors (h : d.process? = some p) :
    DrawsKnown (danglingConnectors.apply d).1 := by
  rw [danglingConnectors_eq h, andThen_fst]
  exact drawsKnown_syncDiagram _

/-- The first check changes nothing in flow nodes but their lists. -/
lemma sameButLists_danglingConnectors (h : d.process? = some p) :
    List.Forall₂ SameButLists d.flowNodes (danglingConnectors.apply d).1.flowNodes := by
  rw [Document.flowNodes_eq h, Document.flowNodes_eq (process?_danglingConnectors h),
    flowNodes_linkProcess, List.forall₂_map_right_iff, List.forall₂_same]
  exact fun e _ => sameButLists_syncNode ..

/-- The second check changes nothing in flow nodes but their lists. -/
lemma sameButLists_unconnectedNodes (h : d.process? = some p) :
    (∃ p', (unconnectedNodes.apply d).1.process? = some p') ∧
      List.Forall₂ SameButLists d.flowNodes (unconnectedNodes.apply d).1.flowNodes := by
  rcases unconnectedNodes_cases d with hfix | ⟨start, -, hattach⟩
  · rw [hfix]
    exact ⟨⟨p, h⟩, List.forall₂_same.mpr fun e _ => SameButLists.refl e⟩
  · rw [hattach]
    have hp := process?_attachNodes start (attachments start (flowEnds d) (flowNodeIds d)) h
    refine ⟨⟨_, hp⟩, ?_⟩
    rw [Document.flowNodes_eq h, Document.flowNodes_eq hp]
    exact flowNodes_attachAll ..

lemma process?_mandatoryProperties (h : d.process? = some p) :
    (mandatoryProperties.apply d).1.process? = some (onFlowNodes completeNode p).1 :=
  process?_onProcess h (sameTag_onFlowNodes p)

lemma flowNodes_mandatoryProperties (h : d.process? = some p) :
    (mandatoryProperties.apply d).1.flowNodes = d.flowNodes.map fun e => (completeNode e).1 := by
  rw [Document.flowNodes_eq (process?_mandatoryProperties h), Document.flowNodes_eq h,
    flowNodes_onFlowNodes sameTag_completeNode]

lemma mandatoryProperties_snd (h : d.process? = some p) :
    (mandatoryProperties.apply d).2 = d.flowNodes.flatMap fun e => (completeNode e).2 := by
  have heq : mandatoryProperties.apply d = onProcess (onFlowNodes completeNode) d := rfl
  rw [Document.flowNodes_eq h, heq, onProcess_eq h]
  rfl

end Stages

/-! ### Mended documents -/

/-- Connectors and nodes are in line, every node is complete, and there is one start that every node
is connected with. -/
structure Mended (d : Document) (start : String) : Prop where
  linked : ∃ p, d.process? = some p ∧ Linked p
  complete : ∀ e ∈ d.flowNodes, IsComplete e
  one_start : (starts d).map (·.attr "id") = [some start]
  connected : ∀ n ∈ flowNodeIds d, IsConnected start (flowEnds d) n

/-- The diagram has no part in it. -/
lemma Mended.of_process?_eq {d d' : Document} {start : String} (h : Mended d start)
    (hp : d'.process? = d.process?) : Mended d' start := by
  have hnodes : d'.flowNodes = d.flowNodes := by rw [Document.flowNodes, hp, Document.flowNodes]
  have hends : flowEnds d' = flowEnds d := by
    rw [flowEnds, Document.connectors, hp, flowEnds, Document.connectors]
  constructor
  · rw [hp]
    exact h.linked
  · rw [hnodes]
    exact h.complete
  · rw [starts, hnodes]
    exact h.one_start
  · rw [flowNodeIds, hnodes, hends]
    exact h.connected

lemma Mended.startIds_eq {d : Document} {start : String} (h : Mended d start) :
    startIds d = [start] := by
  rw [Repair.startIds_eq, h.one_start]
  rfl

/-! ### References in mended documents -/

/-- The attribute that names the node which a connector passes. -/
def Direction.attribute : Direction → String
  | .incoming => "targetRef"
  | .outgoing => "sourceRef"

/-- The connectors that a node has to list are those that have an id, both ends, and the node at the
right one. -/
lemma mem_expected {d : Direction} {cs : List Element} {node id : String} :
    id ∈ d.expected (cs.filterMap connectorEnds?) node ↔
      ∃ c ∈ cs, c.attr "id" = some id ∧ (∃ s, c.attr "sourceRef" = some s) ∧
        (∃ t, c.attr "targetRef" = some t) ∧ c.attr d.attribute = some node := by
  have hends : ∀ {c : Element} {i s t : String}, connectorEnds? c = some (i, s, t) ↔
      c.attr "id" = some i ∧ c.attr "sourceRef" = some s ∧ c.attr "targetRef" = some t := by
    intro c i s t
    simp [connectorEnds?, Option.bind_eq_some_iff]
  simp only [Direction.expected, List.mem_map, List.mem_filter, List.mem_filterMap, beq_iff_eq]
  constructor
  · rintro ⟨⟨i, s, t⟩, ⟨⟨c, hc, hcs⟩, hnode⟩, rfl⟩
    obtain ⟨hid, hs, ht⟩ := hends.mp hcs
    refine ⟨c, hc, hid, ⟨s, hs⟩, ⟨t, ht⟩, ?_⟩
    cases d with
    | incoming => rw [Direction.attribute, ht, hnode]
    | outgoing => rw [Direction.attribute, hs, hnode]
  · rintro ⟨c, hc, hid, ⟨s, hs⟩, ⟨t, ht⟩, hnode⟩
    refine ⟨(id, s, t), ⟨⟨c, hc, hends.mpr ⟨hid, hs, ht⟩⟩, ?_⟩, rfl⟩
    cases d with
    | incoming => exact Option.some.inj (hnode.symm.trans ht)
    | outgoing => exact Option.some.inj (hnode.symm.trans hs)

section References

variable {d : Document} {start : String}

/-- Every connector joins two flow nodes, if no flow node has an empty id. -/
lemma Mended.ends (h : Mended d start) (hne : "" ∉ flowNodeIds d) {c : Element}
    (hc : c ∈ d.connectors) : ∃ s t, c.attr "sourceRef" = some s ∧ c.attr "targetRef" = some t ∧
      s ∈ flowNodeIds d ∧ t ∈ flowNodeIds d := by
  obtain ⟨p, hp, hlinked⟩ := h.linked
  obtain ⟨hmem, hconnector⟩ := (Document.mem_connectors hp).mp hc
  have hjoins := hlinked.joins c hmem hconnector
  rw [← flowNodeIds_eq hp] at hjoins
  exact ⟨_, _, attr_eq_some_of_mem hne hjoins.1, attr_eq_some_of_mem hne hjoins.2, hjoins⟩

/-- Every flow node lists the connectors that enter it and those that leave it, each once. -/
lemma Mended.lists (h : Mended d start) (hne : "" ∉ flowNodeIds d) {e : Element} {node : String}
    (he : e ∈ d.flowNodes) (hnode : e.attr "id" = some node) (dir : Direction) :
    (listed dir e).Nodup ∧ ∀ id, id ∈ listed dir e ↔
      ∃ c ∈ d.connectors, c.attr "id" = some id ∧ c.attr dir.attribute = some node := by
  obtain ⟨p, hp, hlinked⟩ := h.linked
  obtain ⟨hmem, hflow⟩ := (Document.mem_flowNodes hp).mp he
  obtain ⟨hnodup, hlisted⟩ := hlinked.lists e hmem hflow dir
  have hempty : attrOrEmpty e "id" = node := by rw [attrOrEmpty, hnode, Option.getD_some]
  refine ⟨hnodup, fun id => ?_⟩
  rw [hlisted, hempty, connectorsOf, ← Document.connectors_eq hp, mem_expected]
  constructor
  · rintro ⟨c, hc, hid, -, -, hend⟩
    exact ⟨c, hc, hid, hend⟩
  · rintro ⟨c, hc, hid, hend⟩
    obtain ⟨s, t, hs, ht, -⟩ := h.ends hne hc
    exact ⟨c, hc, hid, ⟨s, hs⟩, ⟨t, ht⟩, hend⟩

end References

/-! ### A pass over a mended document -/

/-- In a mended document a pass changes the diagram at the most. -/
theorem run_of_mended {d : Document} {start : String} (h : Mended d start) :
    run [] d = syncDiagram d := by
  obtain ⟨p, hp, hlinked⟩ := h.linked
  have hfirst : danglingConnectors.apply d = syncDiagram d := by
    rw [danglingConnectors_eq hp,
      andThen_of_fixed (onProcess_of_fixed hp (linkProcess_of_linked hlinked))]
  have hrest := h.of_process?_eq (process?_syncDiagram d)
  have hp' : (syncDiagram d).1.process? = some p := (process?_syncDiagram d).trans hp
  have hsecond : unconnectedNodes.apply (syncDiagram d).1 = ((syncDiagram d).1, []) :=
    unconnectedNodes_of_connected hrest.startIds_eq hrest.connected
  have hthird : mandatoryProperties.apply (syncDiagram d).1 = ((syncDiagram d).1, []) := by
    refine onProcess_of_fixed hp' (onFlowNodes_of_fixed fun e he hnode => ?_)
    exact completeNode_of_isComplete
      (hrest.complete e ((Document.mem_flowNodes hp').mpr ⟨he, hnode⟩))
  have hfourth : startCount.apply (syncDiagram d).1 = ((syncDiagram d).1, []) := by
    obtain ⟨e, he, -⟩ := List.map_eq_singleton_iff.mp hrest.one_start
    exact startCount_of_start he
  rw [run_eq hp, andThen_eq, hfirst, andThen_of_fixed hsecond, andThen_of_fixed hthird, hfourth,
    List.append_nil]

/-! ### Documents whose ids can be told apart -/

/-- The ids that a pass relies on: every flow node has one, connectors have different ones, none of
them begins or ends with white space, and no connector is named as one that attaches a node. -/
structure Identified (d : Document) : Prop where
  node_id : ∀ e ∈ d.flowNodes, ∃ id ∈ e.attr "id", Text.IsTrimmed id
  connector_trimmed : ∀ id ∈ d.connectors.filterMap (·.attr "id"), Text.IsTrimmed id
  connector_nodup : (d.connectors.filterMap (·.attr "id")).Nodup
  connector_ne : ∀ n ∈ flowNodeIds d, attachmentId n ∉ d.connectors.filterMap (·.attr "id")

instance (d : Document) : Decidable (Identified d) :=
  decidable_of_iff
    ((∀ e ∈ d.flowNodes, ∃ id ∈ e.attr "id", Text.IsTrimmed id) ∧
      (∀ id ∈ d.connectors.filterMap (·.attr "id"), Text.IsTrimmed id) ∧
      (d.connectors.filterMap (·.attr "id")).Nodup ∧
      ∀ n ∈ flowNodeIds d, attachmentId n ∉ d.connectors.filterMap (·.attr "id"))
    ⟨fun ⟨h₁, h₂, h₃, h₄⟩ => ⟨h₁, h₂, h₃, h₄⟩, fun ⟨h₁, h₂, h₃, h₄⟩ => ⟨h₁, h₂, h₃, h₄⟩⟩

/-- The connectors with ends have ids among those of all connectors. -/
lemma connectorIds_sublist {d : Document} {p : Element} (h : d.process? = some p) :
    (connectorIds (connectorsOf p)).Sublist (d.connectors.filterMap (·.attr "id")) := by
  rw [Document.connectors_eq h, connectorIds, connectorsOf]
  generalize p.elements.filter isConnector = es
  induction es with
  | nil => exact List.Sublist.refl _
  | cons e es ih =>
    cases hid : e.attr "id" with
    | none => simpa [connectorEnds?, hid] using ih
    | some id =>
      rw [List.filterMap_cons, List.filterMap_cons, hid]
      cases hends : connectorEnds? e with
      | none => exact ih.cons id
      | some c =>
        obtain ⟨id', source, target⟩ := c
        have hc : id' = id := by
          simp only [connectorEnds?, hid, Option.bind_eq_bind, Option.bind_some,
            Option.bind_eq_some_iff] at hends
          obtain ⟨s, -, t, -, hpure⟩ := hends
          exact (congrArg Prod.fst (Option.some.inj hpure)).symm
        rw [List.map_cons, hc]
        exact ih.cons_cons id

/-- The nodes that are attached to the start can be. -/
lemma attachable_attachments {d : Document} {p : Element} {start : String}
    (h : d.process? = some p) (hstart : startIds d = [start])
    (hid : ∀ e ∈ d.flowNodes, ∃ id ∈ e.attr "id", Text.IsTrimmed id)
    (hfresh : ∀ n ∈ flowNodeIds d, attachmentId n ∉ connectorIds (connectorsOf p)) :
    Attachable start (attachments start (flowEnds d) (flowNodeIds d)) p := by
  have hmem : ∀ n ∈ attachments start (flowEnds d) (flowNodeIds d), n ∈ flowNodeIds d :=
    fun n hn => (mem_attachments hn).1
  constructor
  · intro e he hnode
    obtain ⟨id, hid, -⟩ := hid e ((Document.mem_flowNodes h).mpr ⟨he, hnode⟩)
    exact ⟨id, hid⟩
  · have hsub : startIds d ⊆ flowNodeIds d := (List.filter_sublist.filterMap _).subset
    rw [← flowNodeIds_eq h]
    exact hsub (by simp [hstart])
  · exact nodup_attachments ..
  · intro n hn
    rw [← flowNodeIds_eq h]
    exact hmem n hn
  · rintro n hn rfl
    exact (mem_attachments hn).2 (IsConnected.self ..)
  · intro n hn
    obtain ⟨e, he, hn⟩ := List.mem_filterMap.mp (hmem n hn)
    obtain ⟨id, hid, htrim⟩ := hid e he
    rwa [← Option.some.inj (hid.symm.trans hn)]
  · exact fun n hn => hfresh n (hmem n hn)

/-- Completing nodes keeps the process in line. -/
lemma Linked.completeNodes {p : Element} (h : Linked p) :
    Linked (onFlowNodes completeNode p).1 := by
  have hnodes := flowNodes_onFlowNodes sameTag_completeNode p
  have hconnectors := connectors_onFlowNodes sameTag_completeNode p
  have hids : nodeIds (onFlowNodes completeNode p).1 = nodeIds p := by
    rw [nodeIds, hnodes, List.filterMap_map, nodeIds]
    refine List.filterMap_congr fun e _ => ?_
    rw [Function.comp_apply, (sameTag_completeNode e).attr_eq]
  have hends : connectorsOf (onFlowNodes completeNode p).1 = connectorsOf p := by
    rw [connectorsOf, hconnectors, connectorsOf]
  constructor
  · intro e he hc
    have hmem : e ∈ (onFlowNodes completeNode p).1.elements.filter isConnector :=
      List.mem_filter.mpr ⟨he, hc⟩
    rw [hconnectors] at hmem
    rw [hids]
    exact h.joins e (List.mem_filter.mp hmem).1 hc
  · intro e he hnode d
    have hmem : e ∈ (onFlowNodes completeNode p).1.elements.filter isFlowNode :=
      List.mem_filter.mpr ⟨he, hnode⟩
    rw [hnodes] at hmem
    obtain ⟨x, hx, rfl⟩ := List.mem_map.mp hmem
    obtain ⟨hx, hnode⟩ := List.mem_filter.mp hx
    rw [hends, attrOrEmpty_of_sameTag (sameTag_completeNode x), lists_completeNode_iff]
    exact h.lists x hx hnode d

/-! ### The pass -/

section Run

variable {d : Document} {p : Element}

/-- Two checks in a row change nothing in flow nodes but their lists. -/
lemma sameButLists_attached (hp : d.process? = some p) :
    List.Forall₂ SameButLists d.flowNodes
      (unconnectedNodes.apply (danglingConnectors.apply d).1).1.flowNodes := by
  obtain ⟨-, hsecond⟩ := sameButLists_unconnectedNodes (process?_danglingConnectors hp)
  refine forall₂_trans (fun e e' e'' => ?_) (sameButLists_danglingConnectors hp) hsecond
  exact SameButLists.trans

lemma run_fst (hp : d.process? = some p) : (run [] d).1
    = (mandatoryProperties.apply (unconnectedNodes.apply (danglingConnectors.apply d).1).1).1 := by
  rw [run_eq hp, andThen_fst, andThen_fst, andThen_fst, startCount_fst]

/-- The flow nodes keep their tags and their order. -/
theorem sameTag_run (hp : d.process? = some p) :
    List.Forall₂ SameTag d.flowNodes (run [] d).1.flowNodes := by
  obtain ⟨⟨p', hp'⟩, -⟩ := sameButLists_unconnectedNodes (process?_danglingConnectors hp)
  rw [run_fst hp, flowNodes_mandatoryProperties hp', List.forall₂_map_right_iff]
  exact (sameButLists_attached hp).imp fun e e' h => h.toSameTag.trans (sameTag_completeNode e')

/-- The first check leaves a process in line, if ids can be told apart. -/
lemma Identified.linked (hi : Identified d) (hp : d.process? = some p) :
    Linked (linkProcess p).1 := by
  have hsub := connectorIds_sublist hp
  exact linked_linkProcess (hi.connector_nodup.sublist hsub)
    fun c hc => hi.connector_trimmed c (hsub.subset hc)

/-- What the first check leaves can take the connectors of the second. -/
lemma Identified.attachable (hi : Identified d) (hp : d.process? = some p) {start : String}
    (hstart : startIds (danglingConnectors.apply d).1 = [start]) :
    Attachable start (attachments start (flowEnds (danglingConnectors.apply d).1)
      (flowNodeIds (danglingConnectors.apply d).1)) (linkProcess p).1 := by
  have htags := (sameButLists_danglingConnectors hp).imp fun _ _ h => h.toSameTag
  refine attachable_attachments (process?_danglingConnectors hp) hstart ?_ ?_
  · intro e' he'
    obtain ⟨e, he, htag⟩ := exists_of_mem_forall₂ htags he'
    rw [htag.attr_eq]
    exact hi.node_id e he
  · intro n hn hmem
    rw [flowNodeIds_eq_of_sameTag htags] at hn
    rw [connectorsOf_linkProcess] at hmem
    have hsub := (connectorsOf_dropConnectors_sublist p).map (·.1)
    exact hi.connector_ne n hn ((connectorIds_sublist hp).subset (hsub.subset hmem))

/-- The id of the start is known from the first check on. -/
lemma Identified.exists_start (hi : Identified d) (hp : d.process? = some p)
    (h : (run [] d).2.hasFatal = false) : ∃ start,
      (starts (danglingConnectors.apply d).1).map (·.attr "id") = [some start] ∧
        (starts (run [] d).1).map (·.attr "id") = [some start] := by
  have hcount : (startCount.apply (run [] d).1).2.hasFatal = false := by
    rw [run_eq hp] at h
    obtain ⟨-, h⟩ := hasFatal_andThen h
    obtain ⟨-, h⟩ := hasFatal_andThen h
    rw [run_fst hp]
    exact (hasFatal_andThen h).2
  obtain ⟨e, he⟩ := exists_start_of_startCount hcount
  have htags := sameTag_run hp
  have hmem : e ∈ (run [] d).1.flowNodes := by
    have hmem : e ∈ starts (run [] d).1 := by simp [he]
    exact (List.mem_filter.mp hmem).1
  obtain ⟨x, hx, htag⟩ := exists_of_mem_forall₂ htags hmem
  obtain ⟨start, hstart, -⟩ := hi.node_id x hx
  have hlast : (starts (run [] d).1).map (·.attr "id") = [some start] := by
    rw [he, List.map_singleton, htag.attr_eq, hstart]
  refine ⟨start, ?_, hlast⟩
  rw [attr_starts_eq ((sameButLists_danglingConnectors hp).imp fun _ _ h => h.toSameTag),
    ← attr_starts_eq htags, hlast]

/-- A pass that reports nothing fatal leaves a mended document. -/
theorem mended_run (hi : Identified d) (h : (run [] d).2.hasFatal = false) :
    ∃ start, Mended (run [] d).1 start := by
  obtain ⟨p, hp⟩ := exists_process?_of_run h
  obtain ⟨start, hstart, hlast⟩ := hi.exists_start hp h
  have hids : startIds (danglingConnectors.apply d).1 = [start] := by
    rw [startIds_eq, hstart]
    rfl
  have hattach := hi.attachable hp hids
  have hp₁ := process?_danglingConnectors hp
  have hp₂ := process?_attachNodes start (attachments start
    (flowEnds (danglingConnectors.apply d).1) (flowNodeIds (danglingConnectors.apply d).1)) hp₁
  rw [← unconnectedNodes_fst hids] at hp₂
  have hp₃ := process?_mandatoryProperties hp₂
  rw [← run_fst hp] at hp₃
  refine ⟨start, ⟨_, hp₃, ((hi.linked hp).attachAll hattach).completeNodes⟩, ?_, hlast, ?_⟩
  · -- nothing fatal was reported of any node
    intro e he
    rw [run_fst hp, flowNodes_mandatoryProperties hp₂] at he
    obtain ⟨x, hx, rfl⟩ := List.mem_map.mp he
    refine isComplete_completeNode ?_ ?_
    · exact ((Document.mem_flowNodes hp₂).mp hx).2
    · rw [run_eq hp] at h
      obtain ⟨-, h⟩ := hasFatal_andThen h
      obtain ⟨-, h⟩ := hasFatal_andThen h
      have hall := (hasFatal_andThen h).1
      rw [mandatoryProperties_snd hp₂, Report.hasFatal, List.any_flatMap, List.any_eq_false] at hall
      exact Bool.eq_false_iff.mpr (hall x hx)
  · -- the connectors are those that the second check has left
    have hends : flowEnds (run [] d).1 = flowEnds (danglingConnectors.apply d).1
        ++ (attachments start (flowEnds (danglingConnectors.apply d).1)
          (flowNodeIds (danglingConnectors.apply d).1)).map (start, ·) := by
      rw [flowEnds_eq hp₃, connectors_onFlowNodes sameTag_completeNode, flowEnds_attachAll,
        ← flowEnds_eq hp₁]
    have hnodes : flowNodeIds (run [] d).1 = flowNodeIds (danglingConnectors.apply d).1 := by
      rw [flowNodeIds_eq_of_sameTag (sameTag_run hp), flowNodeIds_eq_of_sameTag
        ((sameButLists_danglingConnectors hp).imp fun _ _ h => h.toSameTag)]
    rw [hends, hnodes]
    exact isConnected_attachments _ _ _

/-- The first two checks report nothing fatal, and the third what it reports of the nodes as they
were. -/
lemma hasFatal_mandatoryProperties (hp : d.process? = some p) :
    (danglingConnectors.apply d).2.hasFatal = false ∧
      ((mandatoryProperties.apply (unconnectedNodes.apply
        (danglingConnectors.apply d).1).1).2.hasFatal = false ↔
          ∀ e ∈ d.flowNodes, (completeNode e).2.hasFatal = false) := by
  obtain ⟨⟨p', hp'⟩, -⟩ := sameButLists_unconnectedNodes (process?_danglingConnectors hp)
  constructor
  · rw [danglingConnectors_eq hp, hasFatal_andThen_eq, hasFatal_syncDiagram, Bool.or_false,
      onProcess_eq hp]
    exact hasFatal_linkProcess p
  · rw [mandatoryProperties_snd hp', Report.hasFatal, List.any_flatMap, List.any_eq_false]
    have hsame := sameButLists_attached hp
    constructor
    · intro h e he
      obtain ⟨e', he', hsame⟩ := exists_of_mem_forall₂ hsame.flip he
      rw [← completeNode_snd_of_sameButLists hsame]
      exact Bool.eq_false_iff.mpr (h e' he')
    · intro h e' he'
      obtain ⟨e, he, hsame⟩ := exists_of_mem_forall₂ hsame he'
      rw [completeNode_snd_of_sameButLists hsame]
      exact Bool.eq_false_iff.mp (h e he)

/-- A pass reports something fatal exactly if a node contradicts itself or there is not exactly one
start. -/
theorem hasFatal_run_iff (hp : d.process? = some p) :
    (run [] d).2.hasFatal = false ↔
      (∀ e ∈ d.flowNodes, (completeNode e).2.hasFatal = false) ∧ (starts d).length = 1 := by
  obtain ⟨hfirst, hthird⟩ := hasFatal_mandatoryProperties hp
  rw [run_eq hp, hasFatal_andThen_eq, hfirst, hasFatal_andThen_eq, hasFatal_unconnectedNodes,
    hasFatal_andThen_eq, Bool.false_or, Bool.false_or, Bool.or_eq_false_iff, ← run_fst hp]
  refine and_congr hthird ?_
  have hlength := congrArg List.length (attr_starts_eq (sameTag_run hp))
  rw [List.length_map, List.length_map] at hlength
  rw [← hlength, List.length_eq_one_iff]
  constructor
  · exact exists_start_of_startCount
  · rintro ⟨e, he⟩
    rw [startCount_of_start he]
    rfl

/-- Where no node contradicts itself, what is fatal in the report is what the last check says. -/
theorem fatals_run (hp : d.process? = some p)
    (h : ∀ e ∈ d.flowNodes, (completeNode e).2.hasFatal = false) :
    Report.fatals (run [] d).2 = (startCount.apply (run [] d).1).2 := by
  obtain ⟨hfirst, hthird⟩ := hasFatal_mandatoryProperties hp
  have hall : ∀ d, Report.fatals (startCount.apply d).2 = (startCount.apply d).2 := by
    intro d
    simp only [startCount]
    split <;> rfl
  rw [run_fst hp, run_eq hp, andThen_snd, andThen_snd, andThen_snd, fatals_append, fatals_append,
    fatals_append, fatals_eq_nil_iff.mpr hfirst,
    fatals_eq_nil_iff.mpr (hasFatal_unconnectedNodes _), fatals_eq_nil_iff.mpr (hthird.mpr h), hall,
    List.nil_append, List.nil_append, List.nil_append]

/-- The diagram is in line after a pass, if the values of properties hold no ids. -/
theorem drawsKnown_run (hp : d.process? = some p)
    (hplain : ∀ e ∈ d.flowNodes, ∀ ext, e.find "extensionElements" = some ext → PlainValues ext) :
    DrawsKnown (run [] d).1 := by
  obtain ⟨⟨p', hp'⟩, -⟩ := sameButLists_unconnectedNodes (process?_danglingConnectors hp)
  have hdrawn : DrawsKnown (unconnectedNodes.apply (danglingConnectors.apply d).1).1 := by
    have hfirst := drawsKnown_danglingConnectors hp
    simp only [unconnectedNodes]
    split
    · exact hfirst.attachNodes _ _ (process?_danglingConnectors hp)
    · exact hfirst
  have heq : ∀ d, mandatoryProperties.apply d = onProcess (onFlowNodes completeNode) d :=
    fun _ => rfl
  rw [run_fst hp, heq, onProcess_eq hp']
  refine hdrawn.modifyProcess hp' (sameTag_onFlowNodes p') ?_
  refine idsOutsideDiagram_subset (sameTag_onFlowNodes p') fun e he => ?_
  rw [onFlowNodes, Element.elements_mapElements]
  refine ⟨_, List.mem_map_of_mem he, ?_⟩
  split
  · rename_i hnode
    refine idsOutsideDiagram_completeNode_subset fun ext hext => ?_
    obtain ⟨x, hx, hsame⟩ := exists_of_mem_forall₂ (sameButLists_attached hp)
      ((Document.mem_flowNodes hp').mpr ⟨he, hnode⟩)
    rw [hsame.find_eq fun d => by cases d <;> decide] at hext
    exact hplain x hx ext hext
  · exact List.Subset.refl _

end Run

end IntegrationFlow.Repair
