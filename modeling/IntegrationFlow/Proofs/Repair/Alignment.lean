import Mathlib
import IntegrationFlow.Proofs.Repair.Preservation

/-!
# Lists that follow the connectors

The first check leaves the connectors that join two nodes and makes every node list those that pass
it. A connector is listed by its trimmed id, so an id with white space around it is not listed as it
is. What is missing is added once for each connector, so an id that several connectors share is
listed several times, unless the node listed it before.
-/

namespace IntegrationFlow.Repair

open Xml (Element)
open Bpmn (Document isConnector)

/-! ### The connectors of a node -/

/-- A connector has both ends and passes a node. -/
def Passes (dir : Direction) (node : String) (c : Element) : Prop :=
  (c.attr "sourceRef").isSome ∧ (c.attr "targetRef").isSome ∧ c.attr dir.attribute = some node

instance (dir : Direction) (node : String) (c : Element) : Decidable (Passes dir node c) :=
  inferInstanceAs (Decidable (_ ∧ _ ∧ _))

/-- The ids of the connectors that pass a node, in their order. -/
def passingIds (dir : Direction) (node : String) (connectors : List Element) : List String :=
  (connectors.filter (Passes dir node ·)).filterMap (·.attr "id")

/-- These are the connectors that the node has to list. -/
lemma expected_eq_passingIds (dir : Direction) (node : String) (connectors : List Element) :
    dir.expected (connectors.filterMap connectorEnds?) node = passingIds dir node connectors := by
  rw [Direction.expected, List.filter_filterMap, List.map_filterMap, passingIds,
    List.filterMap_filter]
  refine List.filterMap_congr fun c _ => ?_
  cases hid : c.attr "id" with
  | none => simp [connectorEnds?, hid]
  | some id =>
    cases hs : c.attr "sourceRef" with
    | none => simp [connectorEnds?, Passes, hs]
    | some s =>
      cases ht : c.attr "targetRef" with
      | none => simp [connectorEnds?, Passes, ht]
      | some t =>
        have hends : connectorEnds? c = some (id, s, t) := by simp [connectorEnds?, hid, hs, ht]
        cases dir with
        | incoming =>
          by_cases h : node = t
          · simp [hends, Passes, Direction.attribute, hs, ht, h, Option.filter]
          · simp [hends, Passes, Direction.attribute, hs, ht, h, Ne.symm h, Option.filter]
        | outgoing =>
          by_cases h : node = s
          · simp [hends, Passes, Direction.attribute, hs, ht, h, Option.filter]
          · simp [hends, Passes, Direction.attribute, hs, ht, h, Ne.symm h, Option.filter]

/-! ### The check -/

/-- `e'` is `e` with both lists brought in line with the connectors. A list holds the trimmed ids of
the connectors that pass. It holds their ids, each once, exactly if these are trimmed and those that
several connectors share were listed before. -/
structure AlignsLists (connectors : List Element) (e e' : Element) : Prop extends
    SameButLists e e' where
  aligned : ∀ dir : Direction,
    Aligned (passingIds dir (attrOrEmpty e "id") connectors) (listed dir e) (listed dir e')
  lists_iff : ∀ dir : Direction, Lists dir (passingIds dir (attrOrEmpty e "id") connectors) e' ↔
    (∀ c ∈ passingIds dir (attrOrEmpty e "id") connectors, Text.IsTrimmed c) ∧
      (passingIds dir (attrOrEmpty e "id") connectors).Pairwise
        fun c c' => c = c' → c ∈ listed dir e

section Check

variable {d : Document} {p : Element}

lemma alignsLists_danglingConnectors (hp : d.process? = some p) :
    List.Forall₂ (AlignsLists (danglingConnectors.apply d).1.connectors) d.flowNodes
      (danglingConnectors.apply d).1.flowNodes := by
  have hp' := process?_danglingConnectors hp
  rw [Document.flowNodes_eq hp, Document.flowNodes_eq hp', flowNodes_linkProcess,
    List.forall₂_map_right_iff, List.forall₂_same, Document.connectors_eq hp',
    connectors_linkProcess]
  intro e _
  have haligned : ∀ dir, Aligned _ (listed dir e) (listed dir _) :=
    aligned_syncNode p.namespacePart (connectorsOf (dropConnectors p).1) e
  simp only [connectorsOf, expected_eq_passingIds] at haligned
  exact ⟨sameButLists_syncNode .., haligned, fun dir => (haligned dir).lists_iff⟩

lemma joins_danglingConnectors (hp : d.process? = some p) {c : Element}
    (hc : c ∈ (danglingConnectors.apply d).1.connectors) :
    Joins (flowNodeIds (danglingConnectors.apply d).1) c := by
  have htags := (sameButLists_danglingConnectors hp).imp fun _ _ h => h.toSameTag
  rw [connectors_danglingConnectors hp, List.mem_filter, decide_eq_true_iff] at hc
  rw [flowNodeIds_eq_of_sameTag htags]
  exact hc.2

/-- A connector that joins nodes has both ends, unless a node has an empty id. -/
lemma Joins.isSome {nodes : List String} {c : Element} (h : Joins nodes c) (hne : "" ∉ nodes)
    (dir : Direction) : (c.attr dir.attribute).isSome := by
  cases dir with
  | incoming => exact Option.isSome_of_mem (attr_eq_some_of_mem hne h.2)
  | outgoing => exact Option.isSome_of_mem (attr_eq_some_of_mem hne h.1)

end Check

/-- What the first check leaves of a document. The connectors are those that join two flow nodes; a
connector that lacks an end is among them only if some flow node has an empty id. The flow nodes are
the same but for their lists, which follow the connectors. In a document with a process, every shape
and line of the plane stands for something outside of the diagram, and any other document is left
alone. -/
theorem danglingConnectors_aligns (d : Document) :
    (danglingConnectors.apply d).1.connectors
        = d.connectors.filter (fun c => Joins (flowNodeIds d) c) ∧
      (∀ c ∈ (danglingConnectors.apply d).1.connectors,
        Joins (flowNodeIds (danglingConnectors.apply d).1) c) ∧
      ("" ∉ flowNodeIds d → ∀ c ∈ (danglingConnectors.apply d).1.connectors,
        ∀ dir : Direction, (c.attr dir.attribute).isSome) ∧
      List.Forall₂ (AlignsLists (danglingConnectors.apply d).1.connectors) d.flowNodes
        (danglingConnectors.apply d).1.flowNodes ∧
      (d.process?.isSome → DrawsKnown (danglingConnectors.apply d).1) ∧
      (d.process? = none → danglingConnectors.apply d = (d, [])) := by
  cases hp : d.process? with
  | none =>
    have hfix : danglingConnectors.apply d = (d, []) := by simp [danglingConnectors, hp]
    have hnodes : d.flowNodes = [] := by simp [Document.flowNodes, hp]
    have hconnectors : d.connectors = [] := by simp [Document.connectors, hp]
    simp [hfix, hnodes, hconnectors]
  | some p =>
    refine ⟨connectors_danglingConnectors hp, fun c => joins_danglingConnectors hp,
      fun hne c hc => ?_, alignsLists_danglingConnectors hp,
      fun _ => drawsKnown_danglingConnectors hp, by simp⟩
    rw [connectors_danglingConnectors hp, List.mem_filter, decide_eq_true_iff] at hc
    exact hc.2.isSome hne

/-- A flow of tasks with the start `s`. The tasks and the connectors are given, these with their id,
source and target. -/
def taskFlow (tasks : List String) (connectors : List (String × String × String)) : Document where
  root :=
    { name := "definitions"
      children :=
        [.element
          { name := "process"
            children :=
              [.element { name := "startEvent", attributes := [("id", "s")] }] ++
              tasks.map (fun id =>
                .element { name := "serviceTask", attributes := [("id", id)] }) ++
              connectors.map fun (id, source, target) =>
                .element
                  { name := "sequenceFlow"
                    attributes :=
                      [("id", id), ("sourceRef", source), ("targetRef", target)] } }] }

-- an id with white space around it is not listed as it is
example :
    (danglingConnectors.apply (taskFlow ["t"] [(" f", "s", "t")])).1.flowNodes.map
      (fun e => (listed .incoming e, listed .outgoing e)) = [([], ["f"]), (["f"], [])] := by
  decide +kernel

/-- Two connectors that share their id and both ends are each listed twice. -/
theorem twinConnectors_listed_twice :
    (danglingConnectors.apply (taskFlow ["t"] [("f", "s", "t"), ("f", "s", "t")])).1.flowNodes.map
        (fun e => (listed .incoming e, listed .outgoing e))
      = [([], ["f", "f"]), (["f", "f"], [])] := by
  decide +kernel

end IntegrationFlow.Repair
