import Mathlib
import IntegrationFlow.Proofs.Classification

/-!
# What decides a classification

The role of a node decides first, then the table, then keywords. A step is left to the fallback when
the table gives it no type other than an event and no rule applies to its words. Exactly those steps
are warned about, and classifying a graph once more changes nothing, since none of this depends on
the types that were set.
-/

namespace IntegrationFlow.Classification

/-! ### Tables -/

/-- A table gives a type to a source type with a variant: that of the key made of both, or else that
of the source type alone. -/
inductive MappingTable.Gives (t : MappingTable) (sourceType : String) :
    Option String → TargetType → Prop where
  | specific {v target} (h : t.get? (sourceType ++ ":" ++ v) = some target) :
    t.Gives sourceType (some v) target
  | bare {variant target} (hnone : ∀ v ∈ variant, t.get? (sourceType ++ ":" ++ v) = none)
    (h : t.get? sourceType = some target) : t.Gives sourceType variant target

/-- Types are looked up in that order. -/
lemma MappingTable.exists_lookup_iff {t : MappingTable} {sourceType : String}
    {variant : Option String} {target : TargetType} :
    (∃ key, t.lookup sourceType variant = some (target, key)) ↔
      t.Gives sourceType variant target := by
  have hfound : ∀ k, (∃ key, (t.get? k).map (fun target => (target, k)) = some (target, key)) ↔
      t.get? k = some target := by
    intro k
    cases t.get? k <;> simp
  cases variant with
  | none =>
    rw [show t.lookup sourceType none = (t.get? sourceType).map _ from rfl, hfound]
    constructor
    · exact .bare (by simp)
    · rintro (h | ⟨-, h⟩)
      exact h
  | some v =>
    cases hspecific : t.get? (sourceType ++ ":" ++ v) with
    | some found =>
      have hlookup : t.lookup sourceType (some v) = some (found, sourceType ++ ":" ++ v) := by
        simp only [lookup, hspecific, Option.map_some]
      constructor
      · rintro ⟨key, h⟩
        obtain ⟨rfl, -⟩ := Prod.mk.inj (Option.some.inj (hlookup.symm.trans h))
        exact .specific hspecific
      · rintro (h | ⟨hnone, -⟩)
        · obtain rfl := Option.some.inj (hspecific.symm.trans h)
          exact ⟨_, hlookup⟩
        · exact absurd (hnone v rfl) (by simp [hspecific])
    | none =>
      have hlookup : t.lookup sourceType (some v)
          = (t.get? sourceType).map fun target => (target, sourceType) := by
        simp only [lookup, hspecific, Option.map_none]
      rw [hlookup, hfound]
      constructor
      · exact .bare (by simpa using hspecific)
      · rintro (h | ⟨-, h⟩)
        · exact absurd h (by simp [hspecific])
        · exact h

/-! ### Steps -/

/-- The words of the type of a node: those of its source type, then those of its variant. -/
def typeWords (n : Node) : List String :=
  tokenize n.sourceType ++ (n.variant.map tokenize).getD []

/-- A step that neither the table nor a rule knows. -/
structure IsUnknown (t : MappingTable) (n : Node) : Prop where
  role : n.role = .step
  table : ∀ target, t.Gives n.sourceType n.variant target → target.shape = .event
  rules : ∀ rule ∈ standardRules, ¬ rule.applies (typeWords n) ∧ ¬ rule.applies (tokenize n.name)

namespace Mapper

variable (t : MappingTable) (n : Node)

lemma fromTable?_eq_none_iff : fromTable? { table := t } n = none ↔
    ∀ target, t.Gives n.sourceType n.variant target → target.shape = .event := by
  simp only [← MappingTable.exists_lookup_iff, fromTable?]
  cases hlookup : t.lookup n.sourceType n.variant with
  | none => simp
  | some found =>
    obtain ⟨target, key⟩ := found
    simp

lemma fromKeywords?_eq_none_iff : fromKeywords? { table := t } n = none ↔
    ∀ rule ∈ standardRules, ¬ rule.applies (typeWords n) ∧ ¬ rule.applies (tokenize n.name) := by
  simp only [fromKeywords?, firstRule?, Option.map_eq_none_iff, Option.or_eq_none_iff,
    List.find?_eq_none]
  exact ⟨fun h rule hrule => ⟨h.1 rule hrule, h.2 rule hrule⟩,
    fun h => ⟨fun rule hrule => (h rule hrule).1, fun rule hrule => (h rule hrule).2⟩⟩

/-- The table and the rules say that they have decided. -/
lemma tier_ne_fallback {found : Mapping}
    (h : (fromTable? { table := t } n).or (fromKeywords? { table := t } n) = some found) :
    found.tier ≠ .fallback := by
  rcases Option.or_eq_some_iff.mp h with h | ⟨-, h⟩
  · unfold fromTable? at h
    split at h
    · split at h
      · exact absurd h (by simp)
      · simp [← Option.some.inj h]
    · exact absurd h (by simp)
  · obtain ⟨rule, -, rfl⟩ := Option.map_eq_some_iff.mp h
    simp

/-- The fallback decides about the steps that nothing else knows. -/
theorem tier_classify_eq_fallback_iff :
    (classify { table := t } n).tier = .fallback ↔ IsUnknown t n := by
  cases hrole : n.role with
  | start =>
    simp only [classify, hrole, reduceCtorEq, false_iff]
    exact fun h => absurd (hrole.symm.trans h.role) (by decide)
  | finish =>
    have hnot : ¬ IsUnknown t n := fun h => absurd (hrole.symm.trans h.role) (by decide)
    simp only [classify, hrole, iff_false_intro hnot]
    split <;> simp
  | step =>
    have hunknown : IsUnknown t n ↔
        fromTable? { table := t } n = none ∧ fromKeywords? { table := t } n = none := by
      rw [fromTable?_eq_none_iff, fromKeywords?_eq_none_iff]
      exact ⟨fun h => ⟨h.table, h.rules⟩, fun h => ⟨hrole, h.1, h.2⟩⟩
    rw [hunknown, ← Option.or_eq_none_iff]
    simp only [classify, hrole]
    cases hfound : (fromTable? { table := t } n).or (fromKeywords? { table := t } n) with
    | none => simp
    | some found => simpa using tier_ne_fallback t n hfound

instance : DecidablePred (IsUnknown t) :=
  fun n => decidable_of_iff _ (tier_classify_eq_fallback_iff t n)

/-- A step that nothing knows passes messages on. -/
lemma target_classify_of_isUnknown (h : IsUnknown t n) :
    (classify { table := t } n).target = .genericPassthrough := by
  have htable := (fromTable?_eq_none_iff t n).mpr h.table
  have hrules := (fromKeywords?_eq_none_iff t n).mpr h.rules
  simp only [classify, h.role, htable, hrules, Option.or_none, Option.getD_none]

/-- End events are the ends of a flow. -/
theorem target_classify_eq_endEvent_iff :
    (classify { table := t } n).target = .endEvent ∨
      (classify { table := t } n).target = .errorEndEvent ↔ n.role = .finish := by
  cases hrole : n.role with
  | start => simp [classify, hrole]
  | step =>
    have hstep := (target_classify_step t n hrole).1
    simp only [reduceCtorEq, iff_false]
    rintro (heq | heq) <;> exact hstep (by rw [heq]; rfl)
  | finish => simpa using (target_classify_finish t n hrole).symm

/-! ### Graphs -/

variable (m : Mapper) (g : FlowGraph)

/-- What decides about a node is not changed by a decision. -/
lemma resolve_resolve : m.resolve (m.resolve n) = m.resolve n := rfl

lemma apply_apply : m.apply (m.apply g) = m.apply g := by
  simp [apply, FlowGraph.mapNodes, resolve_resolve]

lemma warnings_apply : m.warnings (m.apply g) = m.warnings g := by
  have hclassify : ∀ n, m.classify (m.resolve n) = m.classify n := fun _ => rfl
  have hwarning : ∀ n, fallbackWarning (m.resolve n) = fallbackWarning n := fun _ => rfl
  simp [warnings, apply, nodeList_mapNodes, List.filter_map, Function.comp_def, hclassify, hwarning]

lemma warnings_eq : warnings { table := t } g
    = (g.nodeList.filter fun n => IsUnknown t n).map fallbackWarning := by
  rw [warnings]
  congr 1
  refine List.filter_congr fun n _ => ?_
  rw [Bool.eq_iff_iff, beq_iff_eq, decide_eq_true_iff]
  exact tier_classify_eq_fallback_iff t n

end Mapper

/-- `n'` is `n` but for its type and its properties. -/
def SameButType (n n' : Node) : Prop :=
  n' = { n with target := n'.target, properties := n'.properties }

/-- Classification of a flow with a table of any kind and the standard rules. Start events and end
events are the starts and the ends of the flow, and every node gets a type that can be written if
the table has no other. There is one warning for each step that nothing knows, in order, and such a
step passes messages on. Nothing else about the flow changes, and nothing changes when it is
classified again. -/
theorem apply_classifies (t : MappingTable) (g : FlowGraph) :
    (∀ n ∈ (Mapper.apply { table := t } g).nodeList,
      (n.target = .startEvent ↔ n.role = .start) ∧
      (n.target = .endEvent ∨ n.target = .errorEndEvent ↔ n.role = .finish) ∧
      ((∀ e ∈ t.entries, e.2 ≠ .unresolved) → n.target ≠ .unresolved) ∧
      (IsUnknown t n → n.target = .genericPassthrough)) ∧
    Mapper.warnings { table := t } g = (g.nodeList.filter fun n => IsUnknown t n).map (fun n =>
      { severity := .warning, kind := .mappingFallback, stage := .map, nodeId := some n.id,
        message := "No mapping for source type '" ++ n.sourceType ++
          "'; using generic_passthrough" }) ∧
    (Mapper.apply { table := t } g).edges = g.edges ∧
    OrderedMap.keys (Mapper.apply { table := t } g).nodes = OrderedMap.keys g.nodes ∧
    List.Forall₂ SameButType g.nodeList (Mapper.apply { table := t } g).nodeList ∧
    Mapper.apply { table := t } (Mapper.apply { table := t } g) = Mapper.apply { table := t } g ∧
    Mapper.warnings { table := t } (Mapper.apply { table := t } g)
      = Mapper.warnings { table := t } g := by
  refine ⟨fun n hn => ?_, Mapper.warnings_eq t g, rfl, keys_mapNodes g _, ?_,
    Mapper.apply_apply _ g, Mapper.warnings_apply _ g⟩
  · obtain ⟨x, -, rfl⟩ := Mapper.mem_nodeList_apply.mp hn
    refine ⟨Mapper.target_classify_eq_startEvent_iff t x,
      Mapper.target_classify_eq_endEvent_iff t x, Mapper.target_classify_ne_unresolved t x,
      fun hx => Mapper.target_classify_of_isUnknown t x ⟨hx.role, hx.table, hx.rules⟩⟩
  · rw [Mapper.apply, nodeList_mapNodes, List.forall₂_map_right_iff]
    exact List.forall₂_same.mpr fun n _ => rfl

/-- A table that takes one source type for an event unless it has a variant, and another for an end
after an error. -/
def eventTable : MappingTable where
  version := "1"
  entries := [("widget", .startEvent), ("widget:soap", .send), ("stop", .errorEndEvent)]

/-- A flow with a step that the table takes for an event, the same with a variant, a step with a
telling name and a step of the type that ends a flow. -/
def mixedFlow : FlowGraph where
  nodes :=
    [("in", { id := "in", name := "In", sourceType := "widget", role := .start }),
     ("a", { id := "a", name := "Quasar", sourceType := "widget" }),
     ("b", { id := "b", name := "Quasar", sourceType := "widget", variant := some "soap" }),
     ("c", { id := "c", name := "auditLog", sourceType := "widget" }),
     ("d", { id := "d", name := "Quasar", sourceType := "stop" }),
     ("out", { id := "out", name := "Out", sourceType := "stop", role := .finish })]
  edges := [("SequenceFlow_1", ⟨"SequenceFlow_1", "in", "a", .sequence, none⟩)]

theorem mixedFlow_classified :
    (Mapper.apply { table := eventTable } mixedFlow).nodeList.map Node.target
      = [.startEvent, .genericPassthrough, .send, .logger, .genericPassthrough, .errorEndEvent] ∧
    (∀ n ∈ (Mapper.apply { table := eventTable } mixedFlow).nodeList,
      (n.target = .startEvent ↔ n.role = .start) ∧ n.target ≠ .unresolved) ∧
    (mixedFlow.nodeList.filter fun n => IsUnknown eventTable n).map Node.id = ["a", "d"] ∧
    (Mapper.warnings { table := eventTable } mixedFlow).map Diagnostic.nodeId
      = [some "a", some "d"] ∧
    Mapper.apply { table := eventTable } (Mapper.apply { table := eventTable } mixedFlow)
      = Mapper.apply { table := eventTable } mixedFlow := by
  obtain ⟨hnodes, hwarnings, -, -, -, hagain, -⟩ := apply_classifies eventTable mixedFlow
  have hunknown : (mixedFlow.nodeList.filter fun n => IsUnknown eventTable n).map Node.id
      = ["a", "d"] := by decide +kernel
  refine ⟨by decide +kernel, fun n hn => ⟨(hnodes n hn).1, (hnodes n hn).2.2.1 (by decide)⟩,
    hunknown, ?_, hagain⟩
  rw [hwarnings, List.map_map]
  change (mixedFlow.nodeList.filter fun n => IsUnknown eventTable n).map (some ∘ Node.id) = _
  rw [← List.map_map, hunknown]
  rfl

end IntegrationFlow.Classification
