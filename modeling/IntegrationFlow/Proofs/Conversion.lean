import Mathlib
import IntegrationFlow.Proofs.Bpmn.Generator
import IntegrationFlow.Proofs.Classification
import IntegrationFlow.Proofs.Graph.Folding
import IntegrationFlow.Proofs.Layout.Placement
import IntegrationFlow.Conversion

/-!
# Ends of conversions

A conversion ends with a document that shows the whole flow and has nothing left to mend, or with a
failure that names its cause. There is nothing in between: no document is delivered beside a fatal
entry, and none that lacks a node.
-/

namespace IntegrationFlow

open Xml (Element)
open Repair (Direction IsComplete IsConnected Mended flowEnds listed starts)

/-! ### What a conversion can end with -/

namespace Converter

/-- The records of a bundle. -/
def records (c : Converter) (b : FlowBundle) : List Record :=
  b.hints ++ (c.read b).flatMap Source.Parsed.records

/-- What is reported while a bundle is read. -/
def readReport (c : Converter) (b : FlowBundle) : Report :=
  (c.read b).flatMap Source.Parsed.diagnostics

/-- What is reported until the flow is written. -/
def flowReport (c : Converter) (b : FlowBundle) (g : FlowGraph) : Report :=
  c.readReport b ++ c.mapper.warnings g

/-- A document is written for the flow of a bundle. -/
structure Writes (c : Converter) (b : FlowBundle) (g : FlowGraph) (d : Bpmn.Document)
    (manifest : Bpmn.Manifest) : Prop where
  built : FlowGraph.build (c.records b) = .ok g
  generated : ∃ positions, Layout.place c.layout (c.mapper.apply g) = .ok positions ∧
    Bpmn.generate c.templates (c.mapper.apply g) positions (c.flowMeta b) = .ok (d, manifest)

/-- The ends of conversions, each with what has led to it. -/
inductive Ends (c : Converter) (signal : CancelSignal) (b : FlowBundle) :
    Except ConversionFailure FlowOutput → Prop where
  | cancelled {stage : Stage} {p : Progress} (h : signal p) :
      Ends c signal b (.error (.cancelled b.flowId stage))
  | unread {x : Diagnostic} (h : x ∈ Report.fatals (c.readReport b)) :
      Ends c signal b (.error (.aborted b.flowId .parse x.message (c.readReport b)))
  | unbuilt {e : BuildError} (h : FlowGraph.build (c.records b) = .error e) :
      Ends c signal b (.error (.ofCause b.flowId (c.readReport b) e.diagnostic))
  | undrawn {g : FlowGraph} {e : Layout.LayoutError Float}
      (hbuilt : FlowGraph.build (c.records b) = .ok g)
      (h : Layout.place c.layout (c.mapper.apply g) = .error e) :
      Ends c signal b (.error (.ofCause b.flowId (c.flowReport b g) e.diagnostic))
  | unwritten {g : FlowGraph} {positions : Layout.Positions Float} {e : Bpmn.GenerateError}
      (hbuilt : FlowGraph.build (c.records b) = .ok g)
      (hplaced : Layout.place c.layout (c.mapper.apply g) = .ok positions)
      (h : Bpmn.generate c.templates (c.mapper.apply g) positions (c.flowMeta b) = .error e) :
      Ends c signal b (.error (.ofCause b.flowId (c.flowReport b g) e.diagnostic))
  | unmended {g : FlowGraph} {d : Bpmn.Document} {manifest : Bpmn.Manifest} {x : Diagnostic}
      (hwrites : c.Writes b g d manifest)
      (h : x ∈ Report.fatals (c.flowReport b g ++ (Repair.run c.checks d).2)) :
      Ends c signal b (.error (.aborted b.flowId .repair x.message
        (c.flowReport b g ++ (Repair.run c.checks d).2)))
  | delivered {g : FlowGraph} {d : Bpmn.Document} {manifest : Bpmn.Manifest}
      (hwrites : c.Writes b g d manifest)
      (h : Report.fatals (c.flowReport b g ++ (Repair.run c.checks d).2) = []) :
      Ends c signal b (.ok
        { document := (Repair.run c.checks d).1
          report := c.flowReport b g ++ (Repair.run c.checks d).2
          manifest := manifest.recount (Repair.run c.checks d).1 })

section Stages

variable {c : Converter} {signal : CancelSignal} {b : FlowBundle}

lemma ends_enter {stage : Stage} {p : Progress} {rest : Progress → Outcome}
    (h : ∀ p, c.Ends signal b (rest p).2) :
    c.Ends signal b (enter signal b.flowId stage p rest).2 := by
  unfold enter
  dsimp only
  split
  · exact .cancelled ‹_›
  · exact h _

lemma ends_finish {g : FlowGraph} {d : Bpmn.Document} {manifest : Bpmn.Manifest}
    (hwrites : c.Writes b g d manifest) (p : Progress) :
    c.Ends signal b (c.finish signal b (c.flowReport b g) d manifest p).2 := by
  refine ends_enter fun p => ?_
  simp only [haltOnFatal]
  split
  · rename_i x rest hfatals
    exact .unmended hwrites (hfatals ▸ List.mem_cons_self ..)
  · exact .delivered hwrites ‹_›

lemma ends_express {g : FlowGraph} (hbuilt : FlowGraph.build (c.records b) = .ok g)
    (p : Progress) : c.Ends signal b (c.express signal b (c.readReport b) g p).2 := by
  refine ends_enter fun p => ends_enter fun p => ?_
  split
  · exact .undrawn hbuilt ‹_›
  · rename_i positions hplaced
    refine ends_enter fun p => ?_
    dsimp only
    split
    · exact .unwritten hbuilt hplaced ‹_›
    · rename_i d manifest hgenerated
      exact ends_finish ⟨hbuilt, positions, hplaced, hgenerated⟩ _

/-- Every conversion has one of these ends. -/
theorem ends_run (c : Converter) (signal : CancelSignal) (b : FlowBundle) :
    c.Ends signal b (c.run signal b).2 := by
  refine ends_enter fun p => ?_
  simp only [haltOnFatal]
  split
  · rename_i x rest hfatals
    have hx : x ∈ Report.fatals (c.readReport b) := by
      rw [show Report.fatals (c.readReport b) = _ from hfatals]
      exact List.mem_cons_self ..
    exact .unread hx
  · refine ends_enter fun p => ?_
    split
    · exact .unbuilt ‹_›
    · exact ends_express ‹_› _

end Stages

end Converter

/-! ### What is delivered -/

/-- A converted flow is whole: its document has an element for every node of the flow and one start,
which every node is connected with; connectors join flow nodes, and nodes list them; every node is
complete; and the manifest counts what is there. -/
structure Delivers (g : FlowGraph) (out : FlowOutput) : Prop where
  no_fatal : out.report.hasFatal = false
  node_ids : out.document.flowNodes.map (·.attr "id") = g.nodeList.map fun n => some n.id
  connected : ∃ start, (starts out.document).map (·.attr "id") = [some start] ∧
    ∀ n ∈ g.nodeList, IsConnected start (flowEnds out.document) n.id
  ends : ∀ c ∈ out.document.connectors, ∃ s t,
    c.attr "sourceRef" = some s ∧ c.attr "targetRef" = some t ∧
      s ∈ g.nodeList.map Node.id ∧ t ∈ g.nodeList.map Node.id
  lists : ∀ e ∈ out.document.flowNodes, ∀ dir : Direction, (listed dir e).Nodup ∧
    ∀ id, id ∈ listed dir e ↔ ∃ c ∈ out.document.connectors,
      c.attr "id" = some id ∧ c.attr dir.attribute = e.attr "id"
  complete : ∀ e ∈ out.document.flowNodes, IsComplete e
  node_count : out.manifest.nodeCount = out.document.flowNodes.length
  edge_count : out.manifest.edgeCount = out.document.connectors.length

namespace Converter

section Delivery

variable {c : Converter} {b : FlowBundle} {g : FlowGraph} {d : Bpmn.Document}
  {manifest : Bpmn.Manifest}

/-- The graph of a bundle is well-formed once it is classified. -/
lemma wellFormed_of_built (h : FlowGraph.build (c.records b) = .ok g) :
    (c.mapper.apply g).WellFormed :=
  c.mapper.wellFormed_apply (wellFormed_of_build h)

lemma Writes.depicts (h : c.Writes b g d manifest) (htemplates : c.templates = []) :
    Bpmn.Depicts d (c.mapper.apply g) := by
  obtain ⟨positions, -, hgenerated⟩ := h.generated
  rw [htemplates] at hgenerated
  exact Bpmn.depicts_of_generate hgenerated

lemma isNodeId_apply {acyclic : Option Bool} {records : List Record}
    (h : FlowGraph.build records acyclic = .ok g) (m : Classification.Mapper) :
    ∀ id ∈ (m.apply g).nodeList.map Node.id, IsNodeId id := by
  rw [m.map_id_apply]
  intro id hid
  obtain ⟨n, hn, rfl⟩ := List.mem_map.mp hid
  exact (node_of_build h hn).1

/-- The flow nodes keep the ids of the nodes of the flow through the repair. -/
lemma Writes.map_attr_run (h : c.Writes b g d manifest) (htemplates : c.templates = []) :
    (Repair.run [] d).1.flowNodes.map (·.attr "id") = g.nodeList.map fun n => some n.id := by
  have hdepicts := h.depicts htemplates
  obtain ⟨p, hp⟩ := hdepicts.process
  rw [← map_eq_map_of_forall₂ (fun e e' htag => (htag.attr_eq "id").symm) (Repair.sameTag_run hp),
    hdepicts.map_attr_flowNodes, ← Function.comp_def some, ← List.map_map, c.mapper.map_id_apply,
    List.map_map]

lemma Writes.flowNodeIds_run (h : c.Writes b g d manifest) (htemplates : c.templates = []) :
    Repair.flowNodeIds (Repair.run [] d).1 = g.nodeList.map Node.id := by
  have hids := congrArg List.reduceOption (h.map_attr_run htemplates)
  simpa [List.reduceOption, List.filterMap_map, Function.comp_def, Repair.flowNodeIds] using hids

/-- A document that was written for a flow and mended shows the whole flow. -/
theorem Writes.delivers (h : c.Writes b g d manifest) (htemplates : c.templates = [])
    {report : Report} (hfatal : Report.hasFatal (report ++ (Repair.run [] d).2) = false) :
    Delivers g
      { document := (Repair.run [] d).1
        report := report ++ (Repair.run [] d).2
        manifest := manifest.recount (Repair.run [] d).1 } := by
  have hids := isNodeId_apply h.built c.mapper
  have hidentified := (h.depicts htemplates).identified (wellFormed_of_built h.built) fun n hn =>
    hids n.id (List.mem_map_of_mem hn)
  have hrun : (Repair.run [] d).2.hasFatal = false := by
    rw [Repair.hasFatal_append, Bool.or_eq_false_iff] at hfatal
    exact hfatal.2
  obtain ⟨start, hmended⟩ := Repair.mended_run hidentified hrun
  have hattrs := h.map_attr_run htemplates
  have hnodes := h.flowNodeIds_run htemplates
  have hne : "" ∉ Repair.flowNodeIds (Repair.run [] d).1 := by
    rw [hnodes, ← c.mapper.map_id_apply]
    exact fun hmem => (hids "" hmem).1 rfl
  constructor
  · exact hfatal
  · exact hattrs
  · refine ⟨start, hmended.one_start, fun n hn => hmended.connected n.id ?_⟩
    rw [hnodes]
    exact List.mem_map_of_mem hn
  · intro e he
    rw [← hnodes]
    exact hmended.ends hne he
  · intro e he dir
    have hmem : e.attr "id" ∈ (Repair.run [] d).1.flowNodes.map (·.attr "id") :=
      List.mem_map_of_mem he
    rw [hattrs] at hmem
    obtain ⟨n, -, hn⟩ := List.mem_map.mp hmem
    rw [← hn]
    exact hmended.lists hne he hn.symm dir
  · exact hmended.complete
  · rfl
  · rfl

/-- With the standard templates and checks, a conversion delivers a whole flow, or its report holds
a fatal entry that gives the reason, or it was cancelled. -/
theorem run_delivers_or_explains (c : Converter) (htemplates : c.templates = [])
    (hchecks : c.checks = []) (signal : CancelSignal) (b : FlowBundle) :
    match (c.run signal b).2 with
    | .ok out => ∃ g, FlowGraph.build (c.records b) = .ok g ∧ Delivers g out
    | .error (.aborted _ _ reason report) => ∃ x ∈ report, x.isFatal ∧ x.message = reason
    | .error (.cancelled _ _) => ∃ p, signal p := by
  have hcause : ∀ (report : Report) (x : Diagnostic), x.isFatal →
      ∃ y ∈ report ++ [x], y.isFatal ∧ y.message = x.message := by
    intro report x hx
    exact ⟨x, by simp, hx, rfl⟩
  have hends := ends_run c signal b
  generalize (c.run signal b).2 = result at hends
  cases hends with
  | cancelled h => exact ⟨_, h⟩
  | unread h =>
    obtain ⟨hmem, hfatal⟩ := List.mem_filter.mp h
    exact ⟨_, hmem, hfatal, rfl⟩
  | unbuilt h => exact hcause _ _ rfl
  | undrawn hbuilt h => exact hcause _ _ rfl
  | unwritten hbuilt hplaced h => exact hcause _ _ rfl
  | unmended hwrites h =>
    obtain ⟨hmem, hfatal⟩ := List.mem_filter.mp h
    exact ⟨_, hmem, hfatal, rfl⟩
  | @delivered g d manifest hwrites h =>
    rw [hchecks] at h ⊢
    exact ⟨g, hwrites.built, hwrites.delivers htemplates (Repair.fatals_eq_nil_iff.mp h)⟩

/-- A flow that is read from a document, and beside it a component that nothing else leads to and
that leads to itself in two ways. -/
def detachedCircle : FlowBundle where
  flowId := "orders"
  flowName := "Orders"
  documents :=
    [{ name := "m.xml", dialect := .mule
       bytes := bytesOf "<mule><flow name=\"f\"><http:listener path=\"/a\"/></flow></mule>" }]
  hints :=
    [{ id := "x", name := "X", sourceType := "map", document := "a", dialect := some .webMethods,
       links := [⟨"x", .sequence, none⟩, ⟨"x", .error, none⟩] }]

lemma connectorIds_detachedCircle : (({} : Converter).run .never detachedCircle).2.toOption.map
    (fun out => out.document.connectors.map (·.attr "id"))
    = some [some "SequenceFlow_1", some "SequenceFlow_2", some "SequenceFlow_3",
        some "SequenceFlow_repair_x"] := by decide +kernel

theorem run_detachedCircle : ∃ out, (({} : Converter).run .never detachedCircle).2 = .ok out ∧
    out.document.connectors.map (·.attr "id") = [some "SequenceFlow_1", some "SequenceFlow_2",
      some "SequenceFlow_3", some "SequenceFlow_repair_x"] ∧
    ∃ g, FlowGraph.build (({} : Converter).records detachedCircle) = .ok g ∧ Delivers g out := by
  have hread := connectorIds_detachedCircle
  have hends := run_delivers_or_explains {} rfl rfl .never detachedCircle
  cases hrun : (({} : Converter).run .never detachedCircle).2 with
  | error e => simp [hrun, Except.toOption] at hread
  | ok out =>
    rw [hrun] at hread hends
    exact ⟨out, rfl, Option.some.inj hread, hends⟩

end Delivery

end Converter

end IntegrationFlow
