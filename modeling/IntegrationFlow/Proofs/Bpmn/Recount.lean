import Mathlib
import IntegrationFlow.Proofs.Bpmn.Identifiers
import IntegrationFlow.Proofs.Repair.Preservation
import IntegrationFlow.Bpmn.Manifest

/-!
# Documents that are counted again

The manifest of a flow counts its nodes, its edges and their types. Counted again in the document,
the numbers are the same: each node states its type ahead of all else, and whatever properties a
node has, the first value that is stated stays where it is. A pass adds the connectors that it
reports and no other, so nothing but the number of edges changes by it.
-/

namespace IntegrationFlow.Repair

open Xml (Element)
open Bpmn (Document properties propertyValue?)

/-! ### Values that come first -/

/-- A step of a completion leaves the first value of a key alone, unless it is blank. -/
lemma lookup_of_step {ext ext' : Element} (h : CompletionStep ext ext') {key v : String}
    (hv : (properties ext).lookup key = some v) (hblank : Text.isBlank v = false) :
    (properties ext').lookup key = some v := by
  cases h with
  | add key' v' => rw [properties_push, List.lookup_append, hv, Option.some_or]
  | @fill key' blank v' hkey honly hb =>
    obtain ⟨before, after, hsplit, hbefore⟩ := List.lookup_eq_some_iff.mp hv
    have hne : key ≠ key' := by
      rintro rfl
      have hvalue : v = blank := honly.2 v (hsplit ▸ List.mem_append_right _ List.mem_cons_self)
      rw [hvalue, hb] at hblank
      exact absurd hblank (by decide)
    rw [properties_setPropertyValue hkey, hsplit, List.map_append, List.map_cons, if_neg hne]
    refine List.lookup_eq_some_iff.mpr ⟨_, _, rfl, fun p hp => ?_⟩
    obtain ⟨x, hx, rfl⟩ := List.mem_map.mp hp
    split
    · exact hbefore x hx
    · exact hbefore x hx

lemma lookup_of_steps {ext ext' : Element} (h : Relation.ReflTransGen CompletionStep ext ext')
    {key v : String} (hv : (properties ext).lookup key = some v) (hblank : Text.isBlank v = false) :
    (properties ext').lookup key = some v := by
  induction h with
  | refl => exact hv
  | tail _ hstep ih => exact lookup_of_step hstep ih hblank

/-- Completing a node leaves the first value of a key alone, unless it is blank. -/
lemma propertyValue?_completeNode {node : Element} {key v : String}
    (hv : propertyValue? node key = some v) (hblank : Text.isBlank v = false) :
    propertyValue? (completeNode node).1 key = some v := by
  obtain ⟨ext, hext, hlookup⟩ := Option.bind_eq_some_iff.mp hv
  have hname : ext.localName = "extensionElements" := by simpa using List.find?_some hext
  have hensure : ensureExtension node = (node, []) := by simp [ensureExtension, hext]
  unfold completeNode
  split
  · rename_i inferred _
    have hsteps := steps_completeExtension (attrOrEmpty node "id") node.localName inferred ext
    have htag := (Keeps.steps hsteps).tag
    rw [andThen_of_fixed hensure, completeStated_eq hext, propertyValue?, Element.find,
      Element.find?_modifyFirst hext (by simp [htag.localName_eq, hname])]
    exact lookup_of_steps hsteps hlookup hblank
  · exact hv

/-! ### Nodes that a report names as attached -/

/-- Whether an entry says that a node was attached. -/
def isAttachment (x : Diagnostic) : Bool := Text.beginsWith "Attached unconnected node" x.message

/-- The beginning of an entry tells that it says something else. -/
lemma not_isAttachment {x : Diagnostic} (h : x.message.toList.take 2 ≠ ['A', 't']) :
    isAttachment x = false := by
  refine Bool.eq_false_iff.mpr fun hx => h ?_
  obtain ⟨rest, hrest⟩ := List.isPrefixOf_iff_prefix.mp hx
  rw [← hrest]
  rfl

/-- The nodes that were attached according to a report. -/
def attachedNodes (r : Report) : List String := (r.filter isAttachment).filterMap Diagnostic.nodeId

lemma attachedNodes_append (r s : Report) :
    attachedNodes (r ++ s) = attachedNodes r ++ attachedNodes s := by
  simp [attachedNodes]

lemma attachedNodes_eq_nil {r : Report} (h : ∀ x ∈ r, isAttachment x = false) :
    attachedNodes r = [] := by
  rw [attachedNodes, List.filter_eq_nil_iff.mpr fun x hx => by simp [h x hx], List.filterMap_nil]

/-- Reports that name no node name none together. -/
lemma attachedNodes_flatMap {α : Type} {as : List α} {f : α → Report}
    (h : ∀ a ∈ as, attachedNodes (f a) = []) : attachedNodes (as.flatMap f) = [] := by
  induction as with
  | nil => rfl
  | cons a as ih =>
    obtain ⟨ha, has⟩ := List.forall_mem_cons.mp h
    rw [List.flatMap_cons, attachedNodes_append, ha, ih has, List.append_nil]

lemma attachedNodes_singleton {x : Diagnostic} (h : x.message.toList.take 2 ≠ ['A', 't']) :
    attachedNodes [x] = [] :=
  attachedNodes_eq_nil fun _ hy => List.mem_singleton.mp hy ▸ not_isAttachment h

lemma attachedNodes_syncReferences (ns : Option String) (d : Direction) (expected : List String)
    (node : Element) : attachedNodes (syncReferences ns d expected node).2 = [] := by
  refine attachedNodes_eq_nil fun x hx => ?_
  rcases List.mem_append.mp hx with hx | hx
  · obtain ⟨r, -, rfl⟩ := List.mem_map.mp hx
    exact not_isAttachment (by simp [repaired])
  · obtain ⟨r, -, rfl⟩ := List.mem_map.mp hx
    exact not_isAttachment (by simp [repaired])

lemma attachedNodes_syncDiagram (d : Document) : attachedNodes (syncDiagram d).2 = [] := by
  cases hplane : d.plane? with
  | none =>
    rw [syncDiagram, onPlane_of_none hplane]
    rfl
  | some plane =>
    rw [syncDiagram, onPlane_eq hplane]
    refine attachedNodes_eq_nil fun x hx => ?_
    obtain ⟨e, -, hx⟩ := List.mem_filterMap.mp hx
    simp only [orphanShape?, Option.ite_none_right_eq_some, Option.some.injEq] at hx
    obtain ⟨-, rfl⟩ := hx
    exact not_isAttachment (by simp [repaired])

/-- The first check attaches nothing. -/
lemma attachedNodes_danglingConnectors {d : Document} {p : Element} (hp : d.process? = some p) :
    attachedNodes (danglingConnectors.apply d).2 = [] := by
  have hdrop : attachedNodes (dropConnectors p).2 = [] := by
    refine attachedNodes_eq_nil fun x hx => ?_
    obtain ⟨e, -, hx⟩ := List.mem_filterMap.mp hx
    simp only [danglingEnd?, Option.ite_none_right_eq_some, Option.some.injEq] at hx
    obtain ⟨-, rfl⟩ := hx
    exact not_isAttachment (by simp [repaired])
  have hsync : attachedNodes (syncNodes (dropConnectors p).1).2 = [] := by
    rw [syncNodes_eq]
    refine attachedNodes_flatMap fun e _ => ?_
    rw [syncNode, andThen_snd, attachedNodes_append, syncList, syncList,
      attachedNodes_syncReferences, attachedNodes_syncReferences, List.append_nil]
  rw [danglingConnectors_eq hp, andThen_snd, attachedNodes_append, attachedNodes_syncDiagram,
    List.append_nil, onProcess_eq hp, linkProcess, andThen_snd, attachedNodes_append, hdrop, hsync,
    List.append_nil]

/-- What the second check reports are the nodes that it attaches. -/
lemma attachedNodes_unconnectedNodes {d : Document} {start : String}
    (h : startIds d = [start]) : attachedNodes (unconnectedNodes.apply d).2
      = attachments start (flowEnds d) (flowNodeIds d) := by
  simp only [unconnectedNodes, h, attachedNodes]
  rw [List.filter_eq_self.mpr, List.filterMap_map]
  · exact List.filterMap_some
  · intro x hx
    obtain ⟨node, -, rfl⟩ := List.mem_map.mp hx
    simp [isAttachment, repaired, Text.beginsWith, List.isPrefixOf]

lemma attachedNodes_completeProperty (id key default : String) (ext : Element) :
    attachedNodes (completeProperty id key default ext).2 = [] := by
  unfold completeProperty
  split
  · exact attachedNodes_singleton (by simp [repaired])
  · split
    · exact attachedNodes_singleton (by simp [repaired])
    · rfl
  · exact attachedNodes_singleton (by simp [defect])

lemma attachedNodes_completeFor (id : String) (t : Bpmn.Template) (ext : Element) :
    attachedNodes (completeFor id t ext).2 = [] := by
  have hactivity : attachedNodes (completeActivity id t ext).2 = [] := by
    unfold completeActivity
    split
    · exact attachedNodes_singleton (by simp [repaired])
    · rfl
  have hmandatory : ∀ (ms : List (String × String)) (ext : Element),
      attachedNodes (inSequence (ms.map fun m => completeProperty id m.1 m.2) ext).2 = [] := by
    intro ms
    induction ms with
    | nil => exact fun _ => rfl
    | cons m ms ih =>
      intro ext
      rw [List.map_cons, inSequence, andThen_snd, attachedNodes_append,
        attachedNodes_completeProperty, ih, List.append_nil]
  rw [completeFor_eq, andThen_snd, attachedNodes_append, hactivity, hmandatory, List.append_nil]

lemma attachedNodes_settleType {id tag : String} {inferred : TargetType} {ext : Element} :
    (∀ x, settleType id tag inferred ext = .error x → attachedNodes [x] = []) ∧
      ∀ target typed report, settleType id tag inferred ext = .ok (target, typed, report) →
        attachedNodes report = [] := by
  unfold settleType
  split
  · refine ⟨fun x h => absurd h (by simp), fun target typed report h => ?_⟩
    obtain ⟨-, -, rfl⟩ : inferred = target ∧ ext.push _ = typed ∧ _ = report := by simpa using h
    exact attachedNodes_singleton (by simp [repaired])
  · split
    · refine ⟨fun x h => absurd h (by simp), fun target typed report h => ?_⟩
      obtain ⟨-, -, rfl⟩ : _ = target ∧ ext = typed ∧ [] = report := by simpa using h
      rfl
    · refine ⟨fun x h => ?_, fun _ _ _ h => absurd h (by simp)⟩
      obtain rfl := Except.error.inj h
      exact attachedNodes_singleton (by simp [defect])
  · refine ⟨fun x h => ?_, fun _ _ _ h => absurd h (by simp)⟩
    obtain rfl := Except.error.inj h
    exact attachedNodes_singleton (by simp [defect])

/-- The third check attaches nothing. -/
lemma attachedNodes_completeNode (node : Element) : attachedNodes (completeNode node).2 = [] := by
  have hensure : attachedNodes (ensureExtension node).2 = [] := by
    unfold ensureExtension
    split
    · rfl
    · exact attachedNodes_singleton (by simp [repaired])
  have hcomplete : ∀ (id tag : String) (inferred : TargetType) (ext : Element),
      attachedNodes (completeExtension id tag inferred ext).2 = [] := by
    intro id tag inferred ext
    unfold completeExtension
    split
    · exact attachedNodes_settleType.1 _ ‹_›
    · have hreport := attachedNodes_settleType.2 _ _ _ ‹_›
      split
      · exact hreport
      · split
        · rw [attachedNodes_append, hreport, List.nil_append]
          exact attachedNodes_singleton (by simp [defect])
        · rw [attachedNodes_append, hreport, attachedNodes_completeFor, List.append_nil]
  unfold completeNode
  split
  · rw [andThen_snd, attachedNodes_append, hensure, completeStated_eq (find_ensureExtension node),
      hcomplete, List.append_nil]
  · rfl

lemma attachedNodes_startCount (d : Document) : attachedNodes (startCount.apply d).2 = [] := by
  simp only [startCount]
  split
  · exact attachedNodes_singleton (by simp [defect])
  · rfl
  · exact attachedNodes_singleton (by simp [defect])

/-! ### The connectors of a pass -/

section Run

variable {d : Document} {p : Element}

/-- A pass reports the nodes that its second check attaches. -/
lemma attachedNodes_run (hp : d.process? = some p) : attachedNodes (run [] d).2
    = attachedNodes (unconnectedNodes.apply (danglingConnectors.apply d).1).2 := by
  obtain ⟨⟨p', hp'⟩, -⟩ := sameButLists_unconnectedNodes (process?_danglingConnectors hp)
  have hthird : attachedNodes (mandatoryProperties.apply (unconnectedNodes.apply
      (danglingConnectors.apply d).1).1).2 = [] := by
    rw [mandatoryProperties_snd hp']
    exact attachedNodes_flatMap fun e _ => attachedNodes_completeNode e
  rw [run_eq hp, andThen_snd, andThen_snd, andThen_snd, attachedNodes_append, attachedNodes_append,
    attachedNodes_append, attachedNodes_danglingConnectors hp, hthird, attachedNodes_startCount,
    List.nil_append, List.append_nil, List.append_nil]

/-- The second check leaves the connectors, and adds one for each node that it reports, which leads
to the node. -/
lemma connectors_unconnectedNodes (hp : d.process? = some p) :
    (attachedNodes (unconnectedNodes.apply d).2).Nodup ∧
      (unconnectedNodes.apply d).1.connectors.map (·.attr "targetRef")
        = d.connectors.map (·.attr "targetRef")
          ++ (attachedNodes (unconnectedNodes.apply d).2).map some := by
  by_cases hstart : ∃ start, startIds d = [start]
  · obtain ⟨start, hstart⟩ := hstart
    obtain ⟨kept, added, hall, hkept, hadded⟩ := connectors_attachAll start
      (attachments start (flowEnds d) (flowNodeIds d)) p
    rw [attachedNodes_unconnectedNodes hstart, unconnectedNodes_fst hstart,
      Document.connectors_eq hp, Document.connectors_eq (process?_attachNodes _ _ hp), hall,
      List.map_append]
    refine ⟨nodup_attachments .., congrArg₂ _ ?_ ?_⟩
    · exact (map_eq_map_of_forall₂ (fun c c' h => (h.attr_eq "targetRef").symm) hkept).symm
    · exact (map_eq_map_of_forall₂ (fun n c h => (h.attr_eq "targetRef").symm) hadded).symm
  · have hnone : unconnectedNodes.apply d = (d, []) := by
      simp only [unconnectedNodes]
      split
      · exact absurd ⟨_, ‹_›⟩ hstart
      · rfl
    rw [hnone]
    exact ⟨List.nodup_nil, (List.append_nil _).symm⟩

/-- Where every connector joins two nodes, a pass adds one for each node that it reports. -/
lemma connectors_run_of_joins (hp : d.process? = some p)
    (hjoins : ∀ c ∈ d.connectors, Joins (flowNodeIds d) c) :
    (attachedNodes (run [] d).2).Nodup ∧
      (run [] d).1.connectors.map (·.attr "targetRef")
        = d.connectors.map (·.attr "targetRef") ++ (attachedNodes (run [] d).2).map some := by
  obtain ⟨⟨p', hp'⟩, -⟩ := sameButLists_unconnectedNodes (process?_danglingConnectors hp)
  have hfirst : (danglingConnectors.apply d).1.connectors = d.connectors := by
    rw [connectors_danglingConnectors hp, List.filter_eq_self.mpr]
    exact fun c hc => decide_eq_true (hjoins c hc)
  rw [attachedNodes_run hp, run_fst hp, connectors_mandatoryProperties hp', ← hfirst]
  exact connectors_unconnectedNodes (process?_danglingConnectors hp)

end Run

end IntegrationFlow.Repair

namespace IntegrationFlow.Bpmn

open Xml (Element)
open Repair (SameButLists attachedNodes)
open Classification (Mapper)

/-! ### Types that are read again -/

/-- A flow node states a type by its name, ahead of other values of the same key. -/
def States (target : TargetType) (e : Element) : Prop :=
  propertyValue? e "componentType" = some target.name ∧ Text.isBlank target.name = false ∧
    TargetType.ofName? target.name = some target

lemma States.statedTarget_eq {target : TargetType} {e : Element} (h : States target e) :
    statedTarget e = target := by
  rw [statedTarget, h.1, Option.bind_some, h.2.2]
  rfl

/-- What is written for a node states the type of the node, whatever properties the node has. -/
lemma states_of_writes {n : Node} {e : Element} (h : Writes n e) : States n.target e := by
  obtain ⟨t, ht, rfl⟩ := h
  have hread := propertyValue?_flowElement ht
  have hmem : ("componentType", t.target.name) ∈ reservedProperties t n := List.mem_cons_self ..
  rw [← Repair.target_of_standardTemplate? ht] at hread ⊢
  exact ⟨hread, isBlank_of_mem_reservedProperties ht hmem,
    (Repair.sound_of_standardTemplate? ht).named⟩

lemma States.of_sameButLists {target : TargetType} {e e' : Element} (h : States target e)
    (hsame : SameButLists e e') : States target e' := by
  refine ⟨?_, h.2⟩
  rw [propertyValue?, hsame.find_eq fun d => by cases d <;> decide]
  exact h.1

lemma States.completeNode {target : TargetType} {e : Element} (h : States target e) :
    States target (Repair.completeNode e).1 :=
  ⟨Repair.propertyValue?_completeNode h.1 h.2.1, h.2⟩

/-! ### Manifests -/

section Flow

variable {g : FlowGraph} {d : Document}

/-- The nodes are counted by the types that they state. -/
lemma recount_ofGraph (h : List.Forall₂ (fun n e => States n.target e) g.nodeList d.flowNodes)
    (m : FlowMeta) : (Manifest.ofGraph m g).recount d
      = { Manifest.ofGraph m g with edgeCount := d.connectors.length } := by
  have htypes : d.flowNodes.map statedTarget = g.nodeList.map Node.target :=
    (map_eq_map_of_forall₂ (fun n e h => h.statedTarget_eq.symm) h).symm
  have hlen : d.flowNodes.length = g.nodes.length := by
    rw [← h.length_eq, FlowGraph.nodeList, OrderedMap.values, List.length_map]
  have hcount : d.flowNodes.foldl (fun h e => OrderedMap.tally h (statedTarget e)) []
      = g.histogram := by
    rw [← List.foldl_map, htypes, List.foldl_map, FlowGraph.histogram]
  simp only [Manifest.recount, Manifest.ofGraph, hlen, hcount]

namespace Depicts

lemma states (h : Depicts d g) :
    List.Forall₂ (fun n e => States n.target e) g.nodeList d.flowNodes :=
  h.nodes.imp fun _ _ => states_of_writes

/-- After a pass, every node states its type still. -/
lemma states_run (h : Depicts d g) :
    List.Forall₂ (fun n e => States n.target e) g.nodeList (Repair.run [] d).1.flowNodes := by
  obtain ⟨p, hp⟩ := h.process
  obtain ⟨⟨p', hp'⟩, -⟩ :=
    Repair.sameButLists_unconnectedNodes (Repair.process?_danglingConnectors hp)
  rw [Repair.run_fst hp, Repair.flowNodes_mandatoryProperties hp', List.forall₂_map_right_iff]
  refine forall₂_trans (fun n e e' hn he => ?_) h.states (Repair.sameButLists_attached hp)
  exact (hn.of_sameButLists he).completeNode

/-- The connectors of a flow join its nodes. -/
lemma joins (h : Depicts d g) (hwell : g.WellFormed) :
    ∀ c ∈ d.connectors, Repair.Joins (Repair.flowNodeIds d) c := by
  have hids : Repair.flowNodeIds d = OrderedMap.keys g.nodes := by
    have hmap := congrArg List.reduceOption h.map_attr_flowNodes
    rw [hwell.keys_eq]
    simpa [List.reduceOption, List.filterMap_map, Function.comp_def, Repair.flowNodeIds] using hmap
  rw [h.connectors, hids]
  intro c hc
  obtain ⟨e, he, rfl⟩ := List.mem_map.mp hc
  obtain ⟨-, hsource, htarget, -⟩ := attr_connectorOf e
  rw [Repair.Joins, Repair.attrOrEmpty_eq hsource, Repair.attrOrEmpty_eq htarget]
  exact hwell.ends_mem e he

end Depicts

lemma manifest_of_generate {p : Layout.Positions Float} {m : FlowMeta} {manifest : Manifest}
    (h : generate [] g p m = .ok (d, manifest)) : manifest = .ofGraph m g := by
  obtain ⟨nodes, -, h⟩ := bind_eq_ok_iff.mp h
  obtain ⟨edges, -, h⟩ := bind_eq_ok_iff.mp h
  exact (Prod.mk.inj (Except.ok.inj h)).2.symm

end Flow

section Records

variable {records : List Record} {acyclic : Option Bool} {g : FlowGraph} {mapper : Mapper}
  {c : Layout.LayoutConfig Float}

/-- Whatever records make a flow, its manifest agrees with the document that is written for it.
Counted again, the nodes, the edges and the types are the same. After a pass, whatever it reports,
all but the edges are the same, and there is one more edge for each node that the report names as
attached, which leads to that node. -/
theorem recount_agrees (hbuild : FlowGraph.build records acyclic = .ok g)
    (htypes : ∀ n ∈ (mapper.apply g).nodeList, n.target ≠ .unresolved) (hc : c.fault? = none)
    (m : FlowMeta) :
    ∃ p d manifest, Layout.place c (mapper.apply g) = .ok p ∧
      generate [] (mapper.apply g) p m = .ok (d, manifest) ∧
      manifest.recount d = manifest ∧
      (attachedNodes (Repair.run [] d).2).Nodup ∧
      (Repair.run [] d).1.connectors.map (·.attr "targetRef")
        = d.connectors.map (·.attr "targetRef")
          ++ (attachedNodes (Repair.run [] d).2).map some ∧
      manifest.recount (Repair.run [] d).1
        = { manifest with
            edgeCount := manifest.edgeCount + (attachedNodes (Repair.run [] d).2).length } := by
  have hwell : (mapper.apply g).WellFormed := mapper.wellFormed_apply (wellFormed_of_build hbuild)
  obtain ⟨p, hplace, hplaces⟩ := Layout.exists_place hwell hc
  obtain ⟨d, manifest, hgenerate⟩ := exists_generate hwell htypes hplaces m
  have hdepicts := depicts_of_generate hgenerate
  obtain ⟨process, hp⟩ := hdepicts.process
  obtain ⟨hnodup, hadded⟩ := Repair.connectors_run_of_joins hp (hdepicts.joins hwell)
  have hedges : d.connectors.length = (mapper.apply g).edges.length := by
    rw [hdepicts.connectors, List.length_map, FlowGraph.edgeList, OrderedMap.values,
      List.length_map]
  have hlen : (Repair.run [] d).1.connectors.length = (mapper.apply g).edges.length
      + (attachedNodes (Repair.run [] d).2).length := by
    simpa [hedges] using congrArg List.length hadded
  obtain rfl := manifest_of_generate hgenerate
  refine ⟨p, d, _, hplace, hgenerate, ?_, hnodup, hadded, ?_⟩
  · rw [recount_ofGraph hdepicts.states, hedges]
    rfl
  · rw [recount_ofGraph hdepicts.states_run, hlen]
    rfl

end Records

/-- A start, and a node that it does not lead to, with a setting that is read as its type as
well. -/
def looseRecords : List Record :=
  [{ id := "in", name := "In", sourceType := "start", document := "a",
     dialect := some .webMethods, role := .start },
   { id := "map", name := "Map", sourceType := "map", document := "a",
     dialect := some .webMethods, settings := [(" componentType", .literal "router")] }]

lemma attachedNodes_looseRecords : ((FlowGraph.build looseRecords).toOption.bind fun g =>
    (Layout.place Layout.LayoutConfig.standard (Mapper.apply {} g)).toOption.bind fun p =>
      (generate [] (Mapper.apply {} g) p {}).toOption.map fun r =>
        ((Mapper.apply {} g).nodeList.map Node.target, attachedNodes (Repair.run [] r.1).2))
    = some ([.startEvent, .messageMapping], ["map"]) := by decide +kernel

theorem looseRecords_recount :
    (Layout.LayoutConfig.standard : Layout.LayoutConfig Float).fault? = none ∧
    ∃ g p d manifest, FlowGraph.build looseRecords = .ok g ∧
      (∀ n ∈ (Mapper.apply {} g).nodeList, n.target ≠ .unresolved) ∧
      Layout.place .standard (Mapper.apply {} g) = .ok p ∧
      generate [] (Mapper.apply {} g) p {} = .ok (d, manifest) ∧
      manifest.recount d = manifest ∧
      attachedNodes (Repair.run [] d).2 = ["map"] ∧
      manifest.recount (Repair.run [] d).1
        = { manifest with edgeCount := manifest.edgeCount + 1 } := by
  obtain ⟨g, hg, hread⟩ := Option.bind_eq_some_iff.mp attachedNodes_looseRecords
  obtain ⟨p', hp', hread⟩ := Option.bind_eq_some_iff.mp hread
  obtain ⟨r, hr, hread⟩ := Option.map_eq_some_iff.mp hread
  obtain ⟨htargets, hattached⟩ := Prod.mk.inj hread
  have htypes : ∀ n ∈ (Mapper.apply {} g).nodeList, n.target ≠ .unresolved := by
    intro n hn heq
    have hmem := List.mem_map_of_mem (f := Node.target) hn
    rw [htargets, heq] at hmem
    exact absurd hmem (by decide)
  obtain ⟨p, d, manifest, hplace, hgenerate, hsame, -, -, hpass⟩ :=
    recount_agrees (toOption_eq_some_iff.mp hg) htypes Layout.fault?_standard {}
  -- the flow is drawn and written in one way only
  obtain rfl : p = p' := Except.ok.inj (hplace.symm.trans (toOption_eq_some_iff.mp hp'))
  obtain rfl : (d, manifest) = r :=
    Except.ok.inj (hgenerate.symm.trans (toOption_eq_some_iff.mp hr))
  rw [hattached] at hpass
  exact ⟨Layout.fault?_standard, g, p, d, manifest, toOption_eq_some_iff.mp hg, htypes, hplace,
    hgenerate, hsame, hattached, hpass⟩

end IntegrationFlow.Bpmn
