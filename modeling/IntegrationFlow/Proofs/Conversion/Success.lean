import Mathlib
import IntegrationFlow.Proofs.Conversion
import IntegrationFlow.Proofs.Source.Severity

/-!
# When flows are converted

A flow is converted exactly if its records form a graph with one start. Nothing else that is met on
the way can end a conversion: documents are read with warnings at the most, every graph is drawn and
written, and every node is complete as it is written.
-/

namespace IntegrationFlow.Converter

open Repair (completeNode fatals_append fatals_eq_nil_iff starts startCount)

/-! ### Reports before the repair -/

/-- Reading a bundle reports nothing fatal. -/
lemma hasFatal_readReport (c : Converter) (b : FlowBundle) :
    (c.readReport b).hasFatal = false := by
  rw [Repair.hasFatal_eq_false_iff]
  intro x hx
  obtain ⟨parsed, hparsed, hx⟩ := List.mem_flatMap.mp hx
  obtain ⟨d, -, rfl⟩ := List.mem_map.mp hparsed
  exact Source.isFatal_parse d c.options x hx

/-- Components that nothing classifies are no reason to stop. -/
lemma hasFatal_flowReport (c : Converter) (b : FlowBundle) (g : FlowGraph) :
    (c.flowReport b g).hasFatal = false := by
  rw [flowReport, Repair.hasFatal_append, hasFatal_readReport, Bool.false_or,
    Repair.hasFatal_eq_false_iff]
  intro x hx
  obtain ⟨n, -, rfl⟩ := List.mem_map.mp hx
  rfl

/-! ### Written flows -/

section Written

variable {c : Converter} {b : FlowBundle} {g : FlowGraph} {d : Bpmn.Document}
  {manifest : Bpmn.Manifest}

/-- Every graph is drawn. -/
lemma exists_place (hlayout : c.layout.fault? = none)
    (hbuilt : FlowGraph.build (c.records b) = .ok g) :
    ∃ positions, Layout.place c.layout (c.mapper.apply g) = .ok positions ∧
      ∀ n ∈ (c.mapper.apply g).nodeList, ∃ position, positions.node? n.id = some position :=
  Layout.exists_place (wellFormed_of_built hbuilt) hlayout

/-- Every graph that is drawn is written. -/
lemma exists_generate (htemplates : c.templates = []) (htable : c.table.IsResolved)
    (hlayout : c.layout.fault? = none) (hbuilt : FlowGraph.build (c.records b) = .ok g)
    {positions : Layout.Positions Float}
    (hplaced : Layout.place c.layout (c.mapper.apply g) = .ok positions) :
    ∃ d manifest, Bpmn.generate c.templates (c.mapper.apply g) positions (c.flowMeta b)
      = .ok (d, manifest) := by
  obtain ⟨positions', hplaced', hplaces⟩ := exists_place hlayout hbuilt
  obtain rfl : positions' = positions := Except.ok.inj (hplaced'.symm.trans hplaced)
  rw [htemplates]
  refine Bpmn.exists_generate (wellFormed_of_built hbuilt) (fun n hn => ?_) hplaces _
  obtain ⟨x, -, rfl⟩ := Classification.Mapper.mem_nodeList_apply.mp hn
  exact Classification.Mapper.target_classify_ne_unresolved c.table x htable

/-- The third check finds nothing to report of a node as it is written. -/
lemma Writes.completeNode_eq (h : c.Writes b g d manifest) (htemplates : c.templates = [])
    (hkeys : ∀ r ∈ c.records b, ∀ key ∈ OrderedMap.keys r.settings, Text.IsTrimmed key)
    {e : Xml.Element} (he : e ∈ d.flowNodes) : completeNode e = (e, []) := by
  obtain ⟨n, hn, t, ht, rfl⟩ := exists_of_mem_forall₂ (h.depicts htemplates).nodes he
  refine Repair.completeNode_of_isComplete (Bpmn.isComplete_flowElement
    (Repair.sound_of_standardTemplate? ht) fun key hkey =>
      (Bpmn.occursOnce_node_iff ht hkey).mpr fun p hp hread => ?_)
  obtain ⟨x, hx, rfl⟩ := Classification.Mapper.mem_nodeList_apply.mp hn
  -- the keys of the properties come from the settings of records
  have htrimmed : Text.IsTrimmed p.1 := by
    refine Classification.isTrimmed_of_mem_normalize (fun k hk => ?_) (List.mem_map_of_mem hp)
    obtain ⟨r, hr, hk⟩ := (node_of_build h.built hx).2 k hk
    exact hkeys r hr k hk
  exact htrimmed.symm.trans hread

/-- The starts of the document are the starts of the graph. -/
lemma Writes.length_starts (h : c.Writes b g d manifest) (htemplates : c.templates = []) :
    (starts d).length = g.starts.length := by
  rw [(h.depicts htemplates).length_starts, Classification.Mapper.apply, nodeList_mapNodes,
    List.countP_map, FlowGraph.starts, ← List.countP_eq_length_filter]
  refine List.countP_congr fun n _ => ?_
  rw [Function.comp_apply, beq_iff_eq, beq_iff_eq]
  exact Classification.Mapper.target_classify_eq_startEvent_iff c.table n

/-- The repair of a written flow reports something fatal exactly if there is not one start, and then
it is what the last check says. -/
lemma Writes.fatals_eq (h : c.Writes b g d manifest) (htemplates : c.templates = [])
    (hkeys : ∀ r ∈ c.records b, ∀ key ∈ OrderedMap.keys r.settings, Text.IsTrimmed key) :
    Report.fatals (c.flowReport b g ++ (Repair.run [] d).2)
        = (startCount.apply (Repair.run [] d).1).2 ∧
      (Report.fatals (c.flowReport b g ++ (Repair.run [] d).2) = [] ↔ g.starts.length = 1) := by
  obtain ⟨p, hp⟩ := (h.depicts htemplates).process
  have hnodes : ∀ e ∈ d.flowNodes, (completeNode e).2.hasFatal = false := by
    intro e he
    rw [h.completeNode_eq htemplates hkeys he]
    rfl
  rw [fatals_append, fatals_eq_nil_iff.mpr (hasFatal_flowReport c b g), List.nil_append]
  refine ⟨Repair.fatals_run hp hnodes, ?_⟩
  rw [fatals_eq_nil_iff, Repair.hasFatal_run_iff hp, h.length_starts htemplates]
  exact and_iff_right hnodes

end Written

/-! ### The end of a conversion -/

section Conversion

variable {c : Converter} {b : FlowBundle}

/-- How a conversion ends that is not cancelled: the flow has one start and is converted, or its
records form no graph, or the last check of the repair ends it. -/
lemma convert_cases (htemplates : c.templates = []) (hchecks : c.checks = [])
    (htable : c.table.IsResolved) (hlayout : c.layout.fault? = none)
    (hkeys : ∀ r ∈ c.records b, ∀ key ∈ OrderedMap.keys r.settings, Text.IsTrimmed key) :
    (∃ out g, c.convert b = .ok out ∧ FlowGraph.build (c.records b) = .ok g ∧
        g.starts.length = 1) ∨
      (∃ e, FlowGraph.build (c.records b) = .error e ∧
        c.convert b = .error (.ofCause b.flowId (c.readReport b) e.diagnostic)) ∨
      ∃ g d manifest reason report, c.Writes b g d manifest ∧ g.starts.length ≠ 1 ∧
        c.convert b = .error (.aborted b.flowId .repair reason report) ∧
        Report.fatals report = (startCount.apply (Repair.run [] d).1).2 := by
  have hends := ends_run c .never b
  rw [← convert] at hends
  generalize c.convert b = result at hends
  cases hends with
  | cancelled h => exact absurd h (by simp [CancelSignal.never])
  | unread h =>
    rw [fatals_eq_nil_iff.mpr (hasFatal_readReport c b)] at h
    exact absurd h List.not_mem_nil
  | unbuilt h => exact Or.inr (Or.inl ⟨_, h, rfl⟩)
  | undrawn hbuilt h =>
    obtain ⟨positions, hplaced, -⟩ := exists_place hlayout hbuilt
    exact absurd (h.symm.trans hplaced) (by simp)
  | unwritten hbuilt hplaced h =>
    obtain ⟨d, manifest, hgenerated⟩ :=
      exists_generate htemplates htable hlayout hbuilt hplaced
    exact absurd (h.symm.trans hgenerated) (by simp)
  | @unmended g d manifest x hwrites h =>
    obtain ⟨hfatals, hnone⟩ := hwrites.fatals_eq htemplates hkeys
    rw [hchecks] at h ⊢
    refine Or.inr (Or.inr ⟨g, d, manifest, _, _, hwrites, fun hone => ?_, rfl, hfatals⟩)
    rw [hnone.mpr hone] at h
    exact absurd h List.not_mem_nil
  | @delivered g d manifest hwrites h =>
    obtain ⟨-, hnone⟩ := hwrites.fatals_eq htemplates hkeys
    rw [hchecks] at h
    exact Or.inl ⟨_, g, rfl, hwrites.built, hnone.mp h⟩

/-- With the standard templates and checks, types that can be written and measures that are
accepted, a flow whose keys are trimmed is converted exactly if its records form a graph with one
start. If it is not, either they form no graph, or all that is fatal is what the last check of the
repair says about the starts. -/
theorem convert_succeeds_iff (c : Converter) (b : FlowBundle) (htemplates : c.templates = [])
    (hchecks : c.checks = []) (htable : c.table.IsResolved) (hlayout : c.layout.fault? = none)
    (hkeys : ∀ r ∈ c.records b, ∀ key ∈ OrderedMap.keys r.settings, Text.IsTrimmed key) :
    ((∃ out, c.convert b = .ok out) ↔
        ∃ g, FlowGraph.build (c.records b) = .ok g ∧ g.starts.length = 1) ∧
      ∀ failure, c.convert b = .error failure →
        (failure.stage = .build ∧ ∃ e, FlowGraph.build (c.records b) = .error e) ∨
          (failure.stage = .repair ∧ ∃ g d manifest, c.Writes b g d manifest ∧
            failure.report?.map Report.fatals
              = some (startCount.apply (Repair.run [] d).1).2) := by
  rcases convert_cases htemplates hchecks htable hlayout hkeys with
    ⟨out, g, hout, hbuilt, hone⟩ | ⟨e, hbuilt, herror⟩ |
      ⟨g, d, manifest, reason, report, hwrites, hone, herror, hfatals⟩
  · refine ⟨⟨fun _ => ⟨g, hbuilt, hone⟩, fun _ => ⟨out, hout⟩⟩, fun failure hfailure => ?_⟩
    exact absurd (hout.symm.trans hfailure) (by simp)
  · refine ⟨⟨fun ⟨out, hout⟩ => ?_, fun ⟨g, hg, _⟩ => ?_⟩, fun failure hfailure => ?_⟩
    · exact absurd (herror.symm.trans hout) (by simp)
    · exact absurd (hbuilt.symm.trans hg) (by simp)
    · obtain rfl := Except.error.inj (herror.symm.trans hfailure)
      exact Or.inl ⟨rfl, e, hbuilt⟩
  · refine ⟨⟨fun ⟨out, hout⟩ => ?_, fun ⟨g', hg', hone'⟩ => ?_⟩, fun failure hfailure => ?_⟩
    · exact absurd (herror.symm.trans hout) (by simp)
    · obtain rfl := Except.ok.inj (hwrites.built.symm.trans hg')
      exact absurd hone' hone
    · obtain rfl := Except.error.inj (herror.symm.trans hfailure)
      exact Or.inr ⟨rfl, g, d, manifest, hwrites, congrArg some hfatals⟩

theorem convert_detachedCircle : ({} : Converter).table.IsResolved ∧
    ({} : Converter).layout.fault? = none ∧
    (∀ r ∈ ({} : Converter).records detachedCircle, ∀ key ∈ OrderedMap.keys r.settings,
      Text.IsTrimmed key) ∧
    ∃ out, ({} : Converter).convert detachedCircle = .ok out := by
  have htable : ({} : Converter).table.IsResolved := by decide +kernel
  have hlayout : ({} : Converter).layout.fault? = none :=
    Option.isNone_iff_eq_none.mp (by decide +kernel)
  have hkeys : ∀ r ∈ ({} : Converter).records detachedCircle,
      ∀ key ∈ OrderedMap.keys r.settings, Text.IsTrimmed key := by decide +kernel
  have hstarts : (FlowGraph.build (({} : Converter).records detachedCircle)).toOption.map
      (fun g => g.starts.length) = some 1 := by decide +kernel
  refine ⟨htable, hlayout, hkeys, ?_⟩
  refine (convert_succeeds_iff {} detachedCircle rfl rfl htable hlayout hkeys).1.mpr ?_
  cases hbuilt : FlowGraph.build (({} : Converter).records detachedCircle) with
  | error e => simp [hbuilt, Except.toOption] at hstarts
  | ok g =>
    rw [hbuilt] at hstarts
    exact ⟨g, rfl, Option.some.inj hstarts⟩

end Conversion

end IntegrationFlow.Converter
