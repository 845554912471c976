import Mathlib
import IntegrationFlow.Proofs.Repair.Pass

/-!
# Second passes

A second pass finds nothing to mend in what the first has left, with one exception. A mandatory
property whose value is blank is filled by replacing the content of the value, and with the content
every id in it is lost. A shape that was drawn for such an id stands for nothing afterwards, and
only the second pass removes it. Nothing is left for a third one.
-/

namespace IntegrationFlow.Repair

open Xml (Element)
open Bpmn (Document property)

/-- A second pass does no more than remove shapes and lines whose element the first pass has lost:
it changes nothing exactly if there are none, which is so wherever the values of properties hold no
ids, and a third pass never changes anything. -/
theorem second_run_removes_lost_shapes {d d₁ : Document} {r : Report} (hi : Identified d)
    (hrun : run [] d = (d₁, r)) (hfatal : r.hasFatal = false) :
    run [] d₁ = syncDiagram d₁ ∧
      (run [] d₁ = (d₁, []) ↔ DrawsKnown d₁) ∧
      ((∀ e ∈ d.flowNodes, ∀ ext, e.find "extensionElements" = some ext → PlainValues ext) →
        run [] d₁ = (d₁, [])) ∧
      run [] (run [] d₁).1 = ((run [] d₁).1, []) := by
  obtain rfl : (run [] d).1 = d₁ := congrArg Prod.fst hrun
  obtain rfl : (run [] d).2 = r := congrArg Prod.snd hrun
  obtain ⟨p, hp⟩ := exists_process?_of_run hfatal
  obtain ⟨start, hmended⟩ := mended_run hi hfatal
  have hsecond := run_of_mended hmended
  refine ⟨hsecond, ?_, fun hplain => ?_, ?_⟩
  · rw [hsecond, syncDiagram_eq_self_iff]
  · rw [hsecond, syncDiagram_eq_self_iff]
    exact drawsKnown_run hp hplain
  · have hsettled := hmended.of_process?_eq (process?_syncDiagram _)
    rw [hsecond, run_of_mended hsettled, syncDiagram_eq_self_iff]
    exact drawsKnown_syncDiagram _

/-- A flow in which much is missing: a connector leads nowhere, a task is not connected, and no node
states what it is. -/
def bareFlow : Document where
  root :=
    { name := "definitions"
      children :=
        [.element
          { name := "process"
            children :=
              [.element { name := "startEvent", attributes := [("id", "s")] },
               .element { name := "serviceTask", attributes := [("id", "t")] },
               .element
                { name := "sequenceFlow"
                  attributes := [("id", "f"), ("sourceRef", "s"), ("targetRef", "u")] }] }] }

theorem second_run_bareFlow :
    Identified bareFlow ∧ (run [] bareFlow).2.length = 10 ∧
      (run [] bareFlow).2.hasFatal = false ∧
      run [] (run [] bareFlow).1 = ((run [] bareFlow).1, []) := by
  have hi : Identified bareFlow := by decide
  have hfatal : (run [] bareFlow).2.hasFatal = false := by decide +kernel
  refine ⟨hi, by decide +kernel, hfatal, ?_⟩
  refine (second_run_removes_lost_shapes hi rfl hfatal).2.2.1 fun e he ext hext => ?_
  rcases List.mem_pair.mp he with rfl | rfl
  · exact absurd hext.symm (Option.some_ne_none ext)
  · exact absurd hext.symm (Option.some_ne_none ext)

/-- A flow that draws a note, which stands in the value of a property. -/
def notedFlow : Document where
  root :=
    { name := "b:definitions"
      attributes := [("id", "D")]
      children :=
        [.element
          { name := "b:process"
            attributes := [("id", "P")]
            children :=
              [.element
                { name := "b:startEvent"
                  attributes := [("id", "s")]
                  children :=
                    [.element
                      { name := "b:extensionElements"
                        children :=
                          [.element (property "componentType" "start_event"),
                           .element (property "activityType" "StartEvent")] },
                     .element (.ofText "b:outgoing" "f")] },
               .element
                { name := "b:serviceTask"
                  attributes := [("id", "t")]
                  children :=
                    [.element
                      { name := "b:extensionElements"
                        children :=
                          [.element (property "componentType" "send"),
                           .element (property "activityType" "Send"),
                           .element
                            { name := "ifl:property"
                              children :=
                                [.element (.ofText "key" "address"),
                                 .element
                                  { name := "value"
                                    children :=
                                      [.element
                                        { name := "note", attributes := [("id", "n")] }] }] }] },
                     .element (.ofText "b:incoming" "f")] },
               .element
                { name := "b:sequenceFlow"
                  attributes := [("id", "f"), ("sourceRef", "s"), ("targetRef", "t")] }] },
         .element
          { name := "di:BPMNDiagram"
            attributes := [("id", "G")]
            children :=
              [.element
                { name := "di:BPMNPlane"
                  attributes := [("id", "L")]
                  children :=
                    [.element
                      { name := "di:BPMNShape"
                        attributes := [("id", "S"), ("bpmnElement", "n")] }] }] }] }

/-- The first pass fills the address and loses the note, the second removes its shape. -/
theorem second_run_notedFlow :
    Identified notedFlow ∧
      (run [] notedFlow).2 =
        [repaired (some "t") "Filled empty mandatory property 'address' with '/'"] ∧
      (run [] (run [] notedFlow).1).2 =
        [repaired none "Removed diagram element 'S' for missing element 'n'"] ∧
      run [] (run [] notedFlow).1 ≠ ((run [] notedFlow).1, []) := by
  have hsecond : (run [] (run [] notedFlow).1).2 =
      [repaired none "Removed diagram element 'S' for missing element 'n'"] := by decide +kernel
  refine ⟨by decide +kernel, by decide +kernel, hsecond, fun h => ?_⟩
  rw [h] at hsecond
  exact absurd hsecond (List.cons_ne_nil _ _).symm

end IntegrationFlow.Repair
