import Mathlib
import IntegrationFlow.Proofs.Graph.WellFormed

/-!
# Nodes made from records

The records of one merge key are folded into a node, and no record is lost. Each field of the node
has its own rule for which record it is taken from: the last name that is not blank, the last
variant, the first dialect, the first role that is not a step. Of a setting the last value counts
that is not blank, or else the first. So records that come ahead of others fill gaps, and replace
nothing that the others say.
-/

namespace IntegrationFlow

/-! ### Which record counts -/

/-- `a` is the last element that satisfies `p`, or a default if none does. -/
def IsLastOr {α : Type} (p : α → Prop) (default : α) (as : List α) (a : α) : Prop :=
  IsLast p as a ∨ a = default ∧ ∀ x ∈ as, ¬ p x

/-- `a` is the first element that satisfies `p`, or a default if none does. -/
def IsFirstOr {α : Type} (p : α → Prop) (default : α) (as : List α) (a : α) : Prop :=
  IsFirst p as a ∨ a = default ∧ ∀ x ∈ as, ¬ p x

section Choice

variable {α : Type} (p : α → Prop) [DecidablePred p]

lemma isLastOr_getLast?_filter (default : α) (as : List α) :
    IsLastOr p default as ((as.filter p).getLast?.getD default) := by
  cases hlast : (as.filter p).getLast? with
  | some a => exact Or.inl (isLast_iff_getLast?_filter.mpr hlast)
  | none =>
    rw [List.getLast?_eq_none_iff, List.filter_eq_nil_iff] at hlast
    exact Or.inr ⟨rfl, by simpa using hlast⟩

lemma isFirstOr_find? (default : α) (as : List α) :
    IsFirstOr p default as ((as.find? p).getD default) := by
  cases hfirst : as.find? p with
  | some a => exact Or.inl (isFirst_iff_find?.mpr hfirst)
  | none => exact Or.inr ⟨rfl, by simpa using hfirst⟩

end Choice

section Given

variable {α : Type}

/-- The last value that is given, if there is one. -/
lemma isLastOr_getLast?_filterMap (values : List (Option α)) :
    IsLastOr (fun v => v ≠ none) none values (values.filterMap id).getLast? := by
  have hgiven : values.filter (fun v => v ≠ none) = (values.filterMap id).map some := by
    induction values with
    | nil => rfl
    | cons v values ih => cases v <;> simp_all
  have hsame : ((values.filterMap id).getLast?.map some).getD none
      = (values.filterMap id).getLast? := by
    cases (values.filterMap id).getLast? <;> rfl
  have hlast := isLastOr_getLast?_filter (fun v : Option α => v ≠ none) none values
  rwa [hgiven, List.getLast?_map, hsame] at hlast

/-- The first value that is given, if there is one. -/
lemma isFirstOr_findSome? (values : List (Option α)) :
    IsFirstOr (fun v => v ≠ none) none values (values.findSome? id) := by
  have hgiven : (values.find? fun v => v ≠ none).getD none = values.findSome? id := by
    induction values with
    | nil => rfl
    | cons v values ih => cases v <;> simp_all
  exact hgiven ▸ isFirstOr_find? (fun v : Option α => v ≠ none) none values

end Given

/-! ### Settings -/

/-- The values that entries give a key, in order. -/
def valuesFor (entries : Settings) (key : String) : List Setting :=
  (entries.filter fun e => e.1 = key).map Prod.snd

/-- The value of several that counts: the last that is not blank, or else the first. -/
def prevailing? (values : List Setting) : Option Setting :=
  (values.filter fun v => v.isBlank = false).getLast?.or values.head?

lemma prevailing?_eq_none_iff {values : List Setting} :
    prevailing? values = none ↔ values = [] := by
  cases values with
  | nil => simp [prevailing?]
  | cons v values => simp [prevailing?]

lemma prevailing?_eq_some_iff {values : List Setting} {v : Setting} :
    prevailing? values = some v ↔ IsLast (fun x => x.isBlank = false) values v ∨
      values.head? = some v ∧ ∀ x ∈ values, x.isBlank := by
  rw [prevailing?, Option.or_eq_some_iff, isLast_iff_getLast?_filter, List.getLast?_eq_none_iff,
    List.filter_eq_nil_iff, and_comm (a := values.head? = some v)]
  simp

/-- One more value replaces the others unless it is blank. -/
lemma prevailing?_concat (values : List Setting) (v : Setting) :
    prevailing? (values ++ [v])
      = if v.isBlank ∧ values ≠ [] then prevailing? values else some v := by
  by_cases hv : v.isBlank
  · cases values with
    | nil => simp [prevailing?, hv]
    | cons x values => simp [prevailing?, hv]
  · simp [prevailing?, hv]

/-- A setting that is merged in goes to the end, stays out or replaces another. -/
lemma mergeSettings_concat (settings more : Settings) (e : String × Setting) :
    mergeSettings settings (more ++ [e])
      = if e.2.isBlank && OrderedMap.contains (mergeSettings settings more) e.1 then
          mergeSettings settings more
        else OrderedMap.insert (mergeSettings settings more) e.1 e.2 :=
  List.foldl_concat ..

/-- The keys of merged settings stand in the order in which they come first. -/
lemma keys_mergeSettings (entries : Settings) :
    OrderedMap.keys (mergeSettings [] entries) = (OrderedMap.keys entries).eraseDups := by
  induction entries using List.reverseRecOn with
  | nil => rfl
  | append_singleton entries e ih =>
    have hsplit : OrderedMap.keys (entries ++ [e]) = OrderedMap.keys entries ++ [e.1] :=
      List.map_append
    rw [mergeSettings_concat, hsplit, eraseDups_concat, ← ih]
    simp only [← List.mem_eraseDups (l := OrderedMap.keys entries), ← ih]
    split
    · rename_i hblank
      rw [if_pos (OrderedMap.contains_iff.mp (Bool.and_eq_true_iff.mp hblank).2)]
    · exact OrderedMap.keys_insert ..

/-- Of the values of a key the prevailing one is kept. -/
lemma get?_mergeSettings (entries : Settings) (key : String) :
    OrderedMap.get? (mergeSettings [] entries) key = prevailing? (valuesFor entries key) := by
  induction entries using List.reverseRecOn with
  | nil => rfl
  | append_singleton entries e ih =>
    rw [mergeSettings_concat]
    by_cases hkey : e.1 = key
    · have hvalues : valuesFor (entries ++ [e]) key = valuesFor entries key ++ [e.2] := by
        simp [valuesFor, hkey]
      have hcontains : OrderedMap.contains (mergeSettings [] entries) key = true ↔
          valuesFor entries key ≠ [] := by
        rw [OrderedMap.contains_iff, ← not_iff_not, ← OrderedMap.get?_eq_none_iff, ih,
          prevailing?_eq_none_iff, ne_eq, not_not]
      rw [hvalues, prevailing?_concat, hkey]
      simp only [Bool.and_eq_true, hcontains]
      split
      · exact ih
      · rw [OrderedMap.get?_insert, if_pos rfl]
    · have hvalues : valuesFor (entries ++ [e]) key = valuesFor entries key := by
        simp [valuesFor, hkey]
      rw [hvalues, ← ih]
      split
      · rfl
      · rw [OrderedMap.get?_insert, if_neg hkey]

/-! ### Nodes -/

/-- Where a record comes from, as a node notes it. -/
def Record.source (r : Record) : RecordSource := ⟨r.document, r.id⟩

/-- The entries of all settings of records, in order. -/
def entriesOf (rs : List Record) : Settings := rs.flatMap Record.settings

/-- A node says what records of one merge key say. -/
structure Folds (n : Node) (rs : List Record) : Prop where
  sources : n.sources = rs.map Record.source
  name : IsLastOr (fun s => Text.isBlank s = false) "" (rs.map Record.name) n.name
  sourceType :
    IsLastOr (fun s => Text.isBlank s = false) "" (rs.map Record.sourceType) n.sourceType
  variant : IsLastOr (fun v => v ≠ none) none (rs.map Record.variant) n.variant
  role : IsFirstOr (fun r => r ≠ .step) .step (rs.map Record.role) n.role
  dialect : IsFirstOr (fun d => d ≠ none) none (rs.map Record.dialect) n.dialect
  keys : OrderedMap.keys n.settings = (rs.flatMap fun r => OrderedMap.keys r.settings).eraseDups
  value : ∀ key v, OrderedMap.get? n.settings key = some v ↔
    IsLast (fun x => x.isBlank = false) (valuesFor (entriesOf rs) key) v ∨
      (valuesFor (entriesOf rs) key).head? = some v ∧
        ∀ x ∈ valuesFor (entriesOf rs) key, x.isBlank

lemma settings_foldRecords (id : String) (rs : List Record) :
    (foldRecords id rs).settings = mergeSettings [] (entriesOf rs) := by
  rw [mergeSettings, entriesOf, List.foldl_flatMap]
  rfl

/-- Records are folded by these rules. -/
theorem folds_foldRecords (id : String) (rs : List Record) : Folds (foldRecords id rs) rs where
  sources := rfl
  name := by
    simpa [foldRecords, lastNonBlank] using
      isLastOr_getLast?_filter (fun s => Text.isBlank s = false) "" (rs.map Record.name)
  sourceType := by
    simpa [foldRecords, lastNonBlank] using
      isLastOr_getLast?_filter (fun s => Text.isBlank s = false) "" (rs.map Record.sourceType)
  variant := by
    simpa [foldRecords, List.filterMap_map] using
      isLastOr_getLast?_filterMap (rs.map Record.variant)
  role := by
    simpa [foldRecords, bne, BEq.beq] using
      isFirstOr_find? (fun r : Role => r ≠ .step) .step (rs.map Record.role)
  dialect := by
    simpa [foldRecords, List.findSome?_map] using isFirstOr_findSome? (rs.map Record.dialect)
  keys := by
    rw [settings_foldRecords, keys_mergeSettings]
    simp [entriesOf, OrderedMap.keys, List.map_flatMap]
  value key v := by
    rw [settings_foldRecords, get?_mergeSettings, prevailing?_eq_some_iff]

/-! ### Graphs -/

/-- Every record is in the group of its merge key, and in no other. -/
lemma flatMap_recordsWith_perm (records : List Record) :
    ((mergeKeys records).flatMap (recordsWith records)).Perm records :=
  flatMap_filter_perm (nodup_mergeKeys records) Record.groupKey fun _ => groupKey_mem_mergeKeys

/-- The nodes of a graph are made from the records of the merge keys, in the order of the keys. -/
theorem folds_of_build {records : List Record} {acyclic : Option Bool} {g : FlowGraph}
    (h : FlowGraph.build records acyclic = .ok g) :
    List.Forall₂ (fun key n => Folds n (recordsWith records key)) (mergeKeys records)
      g.nodeList := by
  obtain ⟨-, hdescribes⟩ := wellFormed_of_assemble (assemble_of_build h)
  have hnodes := List.forall₂_eq_eq_eq ▸ hdescribes.nodes_eq.symm
  rw [List.forall₂_map_left_iff, List.forall₂_map_right_iff] at hnodes
  refine hnodes.imp fun key n hn => ?_
  -- edges are listed beside what the records say
  obtain ⟨hsources, hname, htype, hvariant, hrole, hdialect, hkeys, hvalue⟩ :=
    hn ▸ folds_foldRecords (nodeIdOf records key) (recordsWith records key)
  exact ⟨hsources, hname, htype, hvariant, hrole, hdialect, hkeys, hvalue⟩

/-- Every node has an id of the characters for ids, and its settings are those of records. -/
theorem node_of_build {records : List Record} {acyclic : Option Bool} {g : FlowGraph}
    (h : FlowGraph.build records acyclic = .ok g) {n : Node} (hn : n ∈ g.nodeList) :
    IsNodeId n.id ∧ ∀ key ∈ OrderedMap.keys n.settings,
      ∃ r ∈ records, key ∈ OrderedMap.keys r.settings := by
  constructor
  · obtain ⟨-, hdescribes⟩ := wellFormed_of_assemble (assemble_of_build h)
    have hmem : ({ n with incoming := [], outgoing := [] } : Node) ∈
        (mergeKeys records).map (nodeOf records) := by
      rw [show (mergeKeys records).map (nodeOf records) = _ from hdescribes.nodes_eq.symm]
      exact List.mem_map_of_mem hn
    obtain ⟨key, hkey, heq⟩ := List.mem_map.mp hmem
    have hid : nodeIdOf records key = n.id := congrArg Node.id heq
    exact hid ▸ isNodeId_nodeIdOf hkey
  · intro k hk
    obtain ⟨key, -, hfolds⟩ := exists_of_mem_forall₂ (folds_of_build h) hn
    rw [hfolds.keys, List.mem_eraseDups, List.mem_flatMap] at hk
    obtain ⟨r, hr, hk⟩ := hk
    exact ⟨r, (mem_recordsWith.mp hr).1, hk⟩

/-- Each merge key has a node, which notes the records with the key. -/
lemma exists_node_of_build {records : List Record} {acyclic : Option Bool} {g : FlowGraph}
    (h : FlowGraph.build records acyclic = .ok g) {key : String} (hkey : key ∈ mergeKeys records) :
    ∃ n ∈ g.nodeList, n.id = nodeIdOf records key ∧
      n.sources = (recordsWith records key).map Record.source := by
  obtain ⟨-, hdescribes⟩ := wellFormed_of_assemble (assemble_of_build h)
  have hmem := List.mem_map_of_mem
    (f := fun key => foldRecords (nodeIdOf records key) (recordsWith records key)) hkey
  rw [← hdescribes.nodes_eq] at hmem
  obtain ⟨n, hn, heq⟩ := List.mem_map.mp hmem
  exact ⟨n, hn, congrArg Node.id heq, congrArg Node.sources heq⟩

/-- The sources that nodes note are those of the records, each as often as there are records. -/
lemma flatMap_sources_perm {records : List Record} {acyclic : Option Bool} {g : FlowGraph}
    (h : FlowGraph.build records acyclic = .ok g) :
    (g.nodeList.flatMap Node.sources).Perm (records.map Record.source) := by
  have hsources : (mergeKeys records).map (fun key => (recordsWith records key).map Record.source)
      = g.nodeList.map Node.sources :=
    map_eq_map_of_forall₂ (fun key n hn => hn.sources.symm) (folds_of_build h)
  rw [List.flatMap_def, ← hsources, ← List.flatMap_def, ← List.map_flatMap]
  exact (flatMap_recordsWith_perm records).map Record.source

/-- A value that is not blank comes from the later records, or from the earlier ones if the later
ones give none. -/
lemma Folds.value_append_iff {n : Node} {earlier later : List Record}
    (h : Folds n (earlier ++ later)) {key : String} {v : Setting} (hv : v.isBlank = false) :
    OrderedMap.get? n.settings key = some v ↔
      IsLast (fun x => x.isBlank = false) (valuesFor (entriesOf later) key) v ∨
        (∀ x ∈ valuesFor (entriesOf later) key, x.isBlank) ∧
          IsLast (fun x => x.isBlank = false) (valuesFor (entriesOf earlier) key) v := by
  have hvalues : valuesFor (entriesOf (earlier ++ later)) key
      = valuesFor (entriesOf earlier) key ++ valuesFor (entriesOf later) key := by
    simp [valuesFor, entriesOf]
  have hnotFirst : ¬ ((valuesFor (entriesOf (earlier ++ later)) key).head? = some v ∧
      ∀ x ∈ valuesFor (entriesOf (earlier ++ later)) key, x.isBlank) := by
    rintro ⟨hhead, hblank⟩
    rw [hblank v (List.mem_of_head? hhead)] at hv
    exact absurd hv (by decide)
  rw [h.value, or_iff_left hnotFirst, hvalues, isLast_append]
  simp only [Bool.not_eq_false]

/-- What becomes of records that are built into a graph. No record is lost; each node says what the
records of its merge key say, by the rule of each field; and of records that come ahead of others,
such as hints ahead of those in documents, the settings fill gaps and replace nothing. -/
theorem build_folds_records {records : List Record} {acyclic : Option Bool} {g : FlowGraph}
    (h : FlowGraph.build records acyclic = .ok g) :
    (g.nodeList.flatMap Node.sources).Perm (records.map Record.source) ∧
    List.Forall₂ (fun key n => Folds n (recordsWith records key)) (mergeKeys records) g.nodeList ∧
    ∀ hints parsed, records = hints ++ parsed →
      List.Forall₂ (fun group n => ∀ key v, v.isBlank = false →
        (OrderedMap.get? n.settings key = some v ↔
          IsLast (fun x => x.isBlank = false)
            (valuesFor (entriesOf (recordsWith parsed group)) key) v ∨
          (∀ x ∈ valuesFor (entriesOf (recordsWith parsed group)) key, x.isBlank) ∧
            IsLast (fun x => x.isBlank = false)
              (valuesFor (entriesOf (recordsWith hints group)) key) v))
        (mergeKeys records) g.nodeList := by
  refine ⟨flatMap_sources_perm h, folds_of_build h, ?_⟩
  rintro hints parsed rfl
  refine (folds_of_build h).imp fun group n hn key v hv => ?_
  rw [recordsWith, List.filter_append] at hn
  exact hn.value_append_iff hv

/-- A hint about a call, and what two documents say about it. The first document replaces the
address and leaves the user blank, the second has a blank address. -/
def hintedCall : List Record :=
  [{ Record.hint "call" "Call" "" with
      settings :=
        [("url", .literal "http://hint"), ("user", .literal "u"), ("note", .literal " ")] },
   { id := "call", name := "Call orders", sourceType := "invoke", document := "a",
     dialect := some .webMethods, settings :=
       [("retries", .literal "3"), ("url", .literal "http://a"), ("user", .literal "")] },
   { id := "in", name := "In", sourceType := "start", document := "a",
     dialect := some .webMethods, role := .start, links := [⟨"call", .sequence, none⟩] },
   { id := "b1", name := " ", sourceType := "invoke", document := "b", variant := some "soap",
     dialect := some .boomi, role := .finish, mergeKey := some "call",
     settings := [("url", .literal ""), ("note", .literal ""), ("retries", .reference "n")] }]

theorem build_hintedCall : ∃ g, FlowGraph.build hintedCall = .ok g ∧
    g.nodeList.map (fun n => (n.name, n.variant, n.role, n.dialect)) =
      [("Call orders", some "soap", .finish, some .webMethods),
       ("In", none, .start, some .webMethods)] ∧
    g.nodeList.map Node.settings =
      [[("url", .literal "http://a"), ("user", .literal "u"), ("note", .literal " "),
        ("retries", .reference "n")], []] ∧
    g.nodeList.map Node.sources =
      [[⟨"<hints>", "call"⟩, ⟨"a", "call"⟩, ⟨"b", "b1"⟩], [⟨"a", "in"⟩]] ∧
    (g.nodeList.flatMap Node.sources).Perm (hintedCall.map Record.source) ∧
    List.Forall₂ (fun key n => Folds n (recordsWith hintedCall key)) ["call", "in"] g.nodeList ∧
    List.Forall₂ (fun group n => ∀ key v, v.isBlank = false →
      (OrderedMap.get? n.settings key = some v ↔
        IsLast (fun x => x.isBlank = false)
          (valuesFor (entriesOf (recordsWith (hintedCall.drop 1) group)) key) v ∨
        (∀ x ∈ valuesFor (entriesOf (recordsWith (hintedCall.drop 1) group)) key, x.isBlank) ∧
          IsLast (fun x => x.isBlank = false)
            (valuesFor (entriesOf (recordsWith (hintedCall.take 1) group)) key) v))
      ["call", "in"] g.nodeList := by
  have hfields : (FlowGraph.build hintedCall).toOption.map (fun g =>
      g.nodeList.map fun n => (n.name, n.variant, n.role, n.dialect))
      = some [("Call orders", some "soap", .finish, some .webMethods),
          ("In", none, .start, some .webMethods)] := by decide +kernel
  have hsettings : (FlowGraph.build hintedCall).toOption.map (fun g =>
      g.nodeList.map Node.settings)
      = some [[("url", .literal "http://a"), ("user", .literal "u"), ("note", .literal " "),
          ("retries", .reference "n")], []] := by decide +kernel
  have hsources : (FlowGraph.build hintedCall).toOption.map (fun g =>
      g.nodeList.map Node.sources)
      = some [[⟨"<hints>", "call"⟩, ⟨"a", "call"⟩, ⟨"b", "b1"⟩], [⟨"a", "in"⟩]] := by
    decide +kernel
  have hkeys : mergeKeys hintedCall = ["call", "in"] := by decide +kernel
  obtain ⟨g, hbuild, hfields⟩ := exists_of_map_toOption hfields
  rw [hbuild] at hsettings hsources
  obtain ⟨hperm, hfolds, hhints⟩ := build_folds_records hbuild
  rw [hkeys] at hfolds hhints
  exact ⟨g, hbuild, hfields, Option.some.inj hsettings, Option.some.inj hsources, hperm, hfolds,
    hhints _ _ (List.take_append_drop 1 hintedCall).symm⟩

end IntegrationFlow
