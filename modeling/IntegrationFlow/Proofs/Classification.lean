import Mathlib
import IntegrationFlow.Proofs.Graph.WellFormed
import IntegrationFlow.Classification.Mapper

/-!
# Classified graphs

Classification sets the type and the properties of nodes and nothing else. Exactly the nodes that
start a flow become start events, and every type is one that can be written, if that is so for the
types in the table.
-/

namespace IntegrationFlow

/-! ### Changes of nodes -/

section MapNodes

variable {g : FlowGraph} {f : Node → Node}

lemma nodeList_mapNodes (g : FlowGraph) (f : Node → Node) :
    (g.mapNodes f).nodeList = g.nodeList.map f := by
  simp [FlowGraph.nodeList, FlowGraph.mapNodes, OrderedMap.values, Function.comp_def]

lemma keys_mapNodes (g : FlowGraph) (f : Node → Node) :
    OrderedMap.keys (g.mapNodes f).nodes = OrderedMap.keys g.nodes := by
  simp [FlowGraph.mapNodes, OrderedMap.keys, Function.comp_def]

/-- A graph stays well-formed if its nodes keep their ids and their edges. -/
theorem FlowGraph.WellFormed.mapNodes (h : g.WellFormed) (hid : ∀ n, (f n).id = n.id)
    (hout : ∀ n, (f n).outgoing = n.outgoing) (hin : ∀ n, (f n).incoming = n.incoming) :
    (g.mapNodes f).WellFormed := by
  constructor
  · rw [keys_mapNodes, nodeList_mapNodes, List.map_map, h.keys_eq]
    exact List.map_congr_left fun n _ => (hid n).symm
  · rw [keys_mapNodes]
    exact h.keys_nodup
  · exact h.edge_keys_eq
  · exact h.edge_ids
  · rw [keys_mapNodes]
    exact h.ends_mem
  · exact h.distinct
  · intro n hn
    rw [nodeList_mapNodes] at hn
    obtain ⟨x, hx, rfl⟩ := List.mem_map.mp hn
    rw [hout, hid]
    exact h.outgoing_eq x hx
  · intro n hn
    rw [nodeList_mapNodes] at hn
    obtain ⟨x, hx, rfl⟩ := List.mem_map.mp hn
    rw [hin, hid]
    exact h.incoming_eq x hx

end MapNodes

namespace Classification

/-! ### Types -/

/-- Every type in a table can be written. -/
def MappingTable.IsResolved (t : MappingTable) : Prop := ∀ e ∈ t.entries, e.2 ≠ .unresolved

instance (t : MappingTable) : Decidable t.IsResolved :=
  inferInstanceAs (Decidable (∀ e ∈ t.entries, e.2 ≠ .unresolved))

/-- What is found in a table is one of its entries. -/
lemma exists_entry_of_lookup {t : MappingTable} {sourceType : String} {variant : Option String}
    {target : TargetType} {key : String} (h : t.lookup sourceType variant = some (target, key)) :
    (key, target) ∈ t.entries := by
  have hfound : ∀ {k : String},
      (t.get? k).map (fun target => (target, k)) = some (target, key) →
        (key, target) ∈ t.entries := by
    intro k hk
    obtain ⟨target', hget, heq⟩ := Option.map_eq_some_iff.mp hk
    obtain ⟨rfl, rfl⟩ := Prod.mk.inj heq
    exact OrderedMap.mem_of_get?_eq_some hget
  unfold MappingTable.lookup at h
  cases variant with
  | none => exact hfound h
  | some v =>
    cases hspecific : t.get? (sourceType ++ ":" ++ v) with
    | none =>
      simp only [hspecific, Option.map_none] at h
      exact hfound h
    | some found =>
      simp only [hspecific, Option.map_some] at h
      exact hfound (by rw [hspecific, Option.map_some, h])

/-- Keywords never make a step an event, and never leave it without a type. -/
lemma target_of_mem_standardRules : ∀ rule ∈ standardRules,
    rule.target.shape ≠ .event ∧ rule.target ≠ .unresolved := by decide

namespace Mapper

variable (t : MappingTable) (n : Node)

/-- A step is no event, and it has a type if every entry of the table has one. -/
lemma target_classify_step (h : n.role = .step) :
    (classify { table := t } n).target.shape ≠ .event ∧
      (t.IsResolved → (classify { table := t } n).target ≠ .unresolved) := by
  simp only [classify, h]
  cases htable : fromTable? { table := t } n with
  | some found =>
    rw [Option.some_or, Option.getD_some]
    unfold fromTable? at htable
    split at htable
    · rename_i target key hlookup
      split at htable
      · exact absurd htable (by simp)
      · obtain rfl := Option.some.inj htable
        exact ⟨‹_›, fun hresolved => hresolved _ (exists_entry_of_lookup hlookup)⟩
    · exact absurd htable (by simp)
  | none =>
    rw [Option.none_or]
    cases hwords : fromKeywords? { table := t } n with
    | some found =>
      obtain ⟨rule, hrule, rfl⟩ := Option.map_eq_some_iff.mp hwords
      have hmem : rule ∈ standardRules := by
        rcases Option.or_eq_some_iff.mp hrule with h | ⟨-, h⟩
        · exact List.mem_of_find?_eq_some h
        · exact List.mem_of_find?_eq_some h
      obtain ⟨hevent, hresolved⟩ := target_of_mem_standardRules rule hmem
      exact ⟨hevent, fun _ => hresolved⟩
    | none => exact ⟨by decide, fun _ => by decide⟩

/-- The end of a flow is an end event. -/
lemma target_classify_finish (h : n.role = .finish) :
    (classify { table := t } n).target = .errorEndEvent ∨
      (classify { table := t } n).target = .endEvent := by
  simp only [classify, h]
  split
  · exact Or.inl rfl
  · exact Or.inr rfl

/-- Start events are the starts of a flow. -/
theorem target_classify_eq_startEvent_iff :
    (classify { table := t } n).target = .startEvent ↔ n.role = .start := by
  cases hrole : n.role with
  | start => simp [classify, hrole]
  | step =>
    have hstep := (target_classify_step t n hrole).1
    simp only [reduceCtorEq, iff_false]
    exact fun heq => hstep (by rw [heq]; rfl)
  | finish =>
    rcases target_classify_finish t n hrole with h | h <;> simp [h]

/-- Every component gets a type. -/
theorem target_classify_ne_unresolved (h : t.IsResolved) :
    (classify { table := t } n).target ≠ .unresolved := by
  cases hrole : n.role with
  | start => simp [classify, hrole]
  | step => exact (target_classify_step t n hrole).2 h
  | finish =>
    rcases target_classify_finish t n hrole with h | h <;> simp [h]

/-- The nodes of a classified graph are those of the graph, each classified. -/
lemma mem_nodeList_apply {m : Mapper} {g : FlowGraph} {n : Node} :
    n ∈ (m.apply g).nodeList ↔ ∃ x ∈ g.nodeList, m.resolve x = n := by
  rw [apply, nodeList_mapNodes, List.mem_map]

/-- Classification keeps the ids of nodes. -/
lemma map_id_apply (m : Mapper) (g : FlowGraph) :
    (m.apply g).nodeList.map Node.id = g.nodeList.map Node.id := by
  rw [apply, nodeList_mapNodes, List.map_map]
  rfl

/-- Classification keeps a graph well-formed. -/
lemma wellFormed_apply (m : Mapper) {g : FlowGraph} (h : g.WellFormed) :
    (m.apply g).WellFormed :=
  h.mapNodes (fun _ => rfl) (fun _ => rfl) fun _ => rfl

end Mapper

/-! ### Properties -/

lemma isTrimmed_property {target : TargetType} {a : Alias} (h : a ∈ aliases target) :
    Text.IsTrimmed a.property := by
  have hall : ∀ target : TargetType, ∀ a ∈ aliases target, Text.IsTrimmed a.property := by
    intro target
    cases target <;> decide
  exact hall target a h

/-- The keys of properties are trimmed if those of the settings are. -/
theorem isTrimmed_of_mem_normalize {n : Node} {target : TargetType}
    (h : ∀ key ∈ OrderedMap.keys n.settings, Text.IsTrimmed key) {key : String}
    (hkey : key ∈ OrderedMap.keys (normalize n target)) : Text.IsTrimmed key := by
  have hfold : ∀ (settings known : Settings),
      (∀ key ∈ OrderedMap.keys settings, Text.IsTrimmed key) →
      (∀ key ∈ OrderedMap.keys known, Text.IsTrimmed key) →
      ∀ key ∈ OrderedMap.keys (settings.foldl (fun m e => OrderedMap.insertNew m e.1 e.2) known),
        Text.IsTrimmed key := by
    intro settings
    induction settings with
    | nil => exact fun known _ hknown => hknown
    | cons e settings ih =>
      intro known hsettings hknown
      rw [List.foldl_cons]
      refine ih _ (fun k hk => hsettings k (List.mem_cons_of_mem _ hk)) fun k hk => ?_
      rcases OrderedMap.mem_keys_insertNew.mp hk with hk | rfl
      · exact hknown k hk
      · exact hsettings e.1 (List.mem_cons_self ..)
  refine hfold _ _ h (fun k hk => ?_) key hkey
  rw [OrderedMap.mem_keys_ofList, OrderedMap.keys, List.map_append, List.map_append,
    List.mem_append, List.mem_append] at hk
  rcases hk with (hk | hk) | hk
  · obtain ⟨e, he, rfl⟩ := List.mem_map.mp hk
    obtain ⟨a, ha, hvalue⟩ := List.mem_filterMap.mp he
    obtain ⟨value, -, rfl⟩ := Option.map_eq_some_iff.mp hvalue
    exact isTrimmed_property ha
  · obtain rfl : k = "sourceType" := by simpa using hk
    decide
  · cases hvariant : n.variant with
    | none => simp [hvariant] at hk
    | some v =>
      obtain rfl : k = "sourceVariant" := by simpa [hvariant] using hk
      decide

end Classification

end IntegrationFlow
