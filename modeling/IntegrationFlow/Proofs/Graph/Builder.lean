import Mathlib
import IntegrationFlow.Proofs.Graph.NodeId
import IntegrationFlow.Proofs.OrderedMap

/-!
# What a built graph describes

The records of one merge key are one node, the nodes stand in the order in which their keys come
first, and an edge leads from a node to another exactly if a record of the one has a link that
leads to a record of the other.
-/

namespace IntegrationFlow

/-! ### Groups -/

/-- The merge keys of records, each once, in the order in which they come first. -/
def mergeKeys (records : List Record) : List String := (records.map Record.groupKey).eraseDups

/-- The records with a merge key. -/
def recordsWith (records : List Record) (key : String) : List Record :=
  records.filter fun r => r.groupKey = key

lemma nodup_mergeKeys (records : List Record) : (mergeKeys records).Nodup := nodup_eraseDups _

lemma mem_mergeKeys {records : List Record} {key : String} :
    key ∈ mergeKeys records ↔ ∃ r ∈ records, r.groupKey = key := by
  simp [mergeKeys]

lemma groupKey_mem_mergeKeys {records : List Record} {r : Record} (h : r ∈ records) :
    r.groupKey ∈ mergeKeys records := mem_mergeKeys.mpr ⟨r, h, rfl⟩

lemma mem_recordsWith {records : List Record} {key : String} {r : Record} :
    r ∈ recordsWith records key ↔ r ∈ records ∧ r.groupKey = key := by
  simp [recordsWith]

/-- Records are grouped by their merge keys. -/
theorem groupRecords_eq (records : List Record) :
    groupRecords records = (mergeKeys records).map fun key => (key, recordsWith records key) := by
  induction records using List.reverseRecOn with
  | nil => rfl
  | append_singleton records r ih =>
    have hkeys : mergeKeys (records ++ [r])
        = if r.groupKey ∈ mergeKeys records then mergeKeys records
          else mergeKeys records ++ [r.groupKey] := by
      rw [mergeKeys, List.map_append, List.map_singleton, eraseDups_concat]
      simp only [mergeKeys, List.mem_eraseDups]
    have hgroup : (OrderedMap.get? (groupRecords records) r.groupKey).getD []
        = recordsWith records r.groupKey := by
      rw [ih, OrderedMap.get?_map_pair]
      split
      · rfl
      · rename_i hnew
        symm
        rw [Option.getD_none, recordsWith, List.filter_eq_nil_iff]
        intro x hx hkey
        exact hnew (mem_mergeKeys.mpr ⟨x, hx, by simpa using hkey⟩)
    rw [groupRecords, List.foldl_concat, ← groupRecords, hgroup, ih,
      OrderedMap.insert_map_pair (nodup_mergeKeys records), hkeys]
    refine List.map_congr_left fun key _ => ?_
    by_cases hkey : key = r.groupKey
    · simp [hkey, recordsWith]
    · simp [hkey, recordsWith, Ne.symm hkey]

lemma keys_groupRecords (records : List Record) :
    OrderedMap.keys (groupRecords records) = mergeKeys records := by
  rw [groupRecords_eq, OrderedMap.keys, List.map_map]
  exact List.map_id _

/-! ### Nodes -/

/-- The id of the node that the records with a key are folded into. -/
def nodeIdOf (records : List Record) (key : String) : String :=
  (OrderedMap.get? ((mergeKeys records).zip (assignIds [] (mergeKeys records))) key).getD ""

lemma map_nodeIdOf (records : List Record) :
    (mergeKeys records).map (nodeIdOf records) = assignIds [] (mergeKeys records) :=
  OrderedMap.map_get?_zip (nodup_mergeKeys records) (length_assignIds ..) ""

/-- Different keys have different nodes. -/
lemma nodup_map_nodeIdOf (records : List Record) :
    ((mergeKeys records).map (nodeIdOf records)).Nodup := by
  rw [map_nodeIdOf]
  exact (nodup_assignIds [] _).1

lemma isNodeId_nodeIdOf {records : List Record} {key : String} (h : key ∈ mergeKeys records) :
    IsNodeId (nodeIdOf records key) := by
  have hmem := List.mem_map_of_mem (f := nodeIdOf records) h
  rw [map_nodeIdOf] at hmem
  exact isNodeId_of_mem_assignIds hmem

lemma get?_nodeIdOf {records : List Record} {key : String} (h : key ∈ mergeKeys records) :
    OrderedMap.get? ((mergeKeys records).zip (assignIds [] (mergeKeys records))) key
      = some (nodeIdOf records key) := by
  have hkeys : OrderedMap.keys ((mergeKeys records).zip (assignIds [] (mergeKeys records)))
      = mergeKeys records :=
    List.map_fst_zip (by rw [length_assignIds])
  obtain ⟨id, hid⟩ := OrderedMap.exists_get?_iff.mpr (hkeys.symm ▸ h)
  rw [nodeIdOf, hid, Option.getD_some]

/-- The node of a key, before it lists its edges. -/
def nodeOf (records : List Record) (key : String) : Node :=
  foldRecords (nodeIdOf records key) (recordsWith records key)

/-! ### Links -/

/-- The merge key of what a link leads to: the first record with that id in the document of the
link, else the first with that id anywhere, else the records with that merge key. -/
inductive Resolves (records : List Record) (document target : String) : String → Prop where
  | sameDocument {r : Record}
      (h : records.find? (fun r => r.document = document ∧ r.id = target) = some r) :
      Resolves records document target r.groupKey
  | otherDocument {r : Record}
      (hnone : ∀ r ∈ records, ¬(r.document = document ∧ r.id = target))
      (h : records.find? (fun r => r.id = target) = some r) :
      Resolves records document target r.groupKey
  | mergeKey (hnone : ∀ r ∈ records, r.id ≠ target) (h : ∃ r ∈ records, r.groupKey = target) :
      Resolves records document target target

/-- Links are resolved in that order. -/
theorem resolveLink?_eq_some_iff {records : List Record} {document target key : String} :
    resolveLink? records document target = some key ↔ Resolves records document target key := by
  unfold resolveLink?
  cases hsame : records.find? fun r => r.document = document ∧ r.id = target with
  | some r =>
    simp only [Option.some_or, Option.some.injEq]
    constructor
    · rintro rfl
      exact .sameDocument hsame
    · intro h
      cases h with
      | sameDocument h => rw [hsame] at h; rw [Option.some.inj h]
      | otherDocument hnone h =>
        exact absurd (by simpa using List.find?_some hsame)
          (hnone r (List.mem_of_find?_eq_some hsame))
      | mergeKey hnone h =>
        have hr : r.document = document ∧ r.id = target := by simpa using List.find?_some hsame
        exact absurd hr.2 (hnone r (List.mem_of_find?_eq_some hsame))
  | none =>
    have hnot : ∀ r ∈ records, ¬(r.document = document ∧ r.id = target) := by
      simpa using hsame
    cases hany : records.find? fun r => r.id = target with
    | some r =>
      simp only [Option.none_or, Option.some.injEq]
      constructor
      · rintro rfl
        exact .otherDocument hnot hany
      · intro h
        cases h with
        | sameDocument h => rw [hsame] at h; exact absurd h (by simp)
        | otherDocument _ h => rw [hany] at h; rw [Option.some.inj h]
        | mergeKey hnone h =>
          have hr : r.id = target := by simpa using List.find?_some hany
          exact absurd hr (hnone r (List.mem_of_find?_eq_some hany))
    | none =>
      have hnone : ∀ r ∈ records, r.id ≠ target := by simpa using hany
      simp only [Option.none_or]
      constructor
      · intro h
        split at h
        · rename_i hkey
          obtain rfl := Option.some.inj h
          exact .mergeKey hnone (by simpa using hkey)
        · exact absurd h (by simp)
      · intro h
        cases h with
        | sameDocument h => rw [hsame] at h; exact absurd h (by simp)
        | otherDocument _ h => rw [hany] at h; exact absurd h (by simp)
        | mergeKey _ h => rw [if_pos (by simpa using h)]

/-- What a link leads to is the key of a record. -/
lemma Resolves.mem_mergeKeys {records : List Record} {document target key : String}
    (h : Resolves records document target key) : key ∈ mergeKeys records := by
  cases h with
  | sameDocument h => exact groupKey_mem_mergeKeys (List.mem_of_find?_eq_some h)
  | otherDocument _ h => exact groupKey_mem_mergeKeys (List.mem_of_find?_eq_some h)
  | mergeKey _ h => exact IntegrationFlow.mem_mergeKeys.mpr h

/-- Without merge keys a link leads to the record with that id. -/
lemma Resolves.eq_target {records : List Record} (hkeys : ∀ r ∈ records, r.mergeKey = none)
    {document target key : String} (h : Resolves records document target key) : key = target := by
  have hid : ∀ r ∈ records, r.groupKey = r.id := by
    intro r hr
    rw [Record.groupKey, hkeys r hr, Option.getD_none]
  cases h with
  | @sameDocument r h =>
    have htarget : r.document = document ∧ r.id = target := by simpa using List.find?_some h
    exact (hid r (List.mem_of_find?_eq_some h)).trans htarget.2
  | @otherDocument r _ h =>
    have htarget : r.id = target := by simpa using List.find?_some h
    exact (hid r (List.mem_of_find?_eq_some h)).trans htarget
  | mergeKey _ h => rfl

/-- A link to the id of a record leads somewhere. -/
lemma exists_resolves {records : List Record} {target : String}
    (h : target ∈ records.map Record.id) (document : String) :
    ∃ key, Resolves records document target key := by
  obtain ⟨r, hr, rfl⟩ := List.mem_map.mp h
  cases hsame : records.find? fun x => x.document = document ∧ x.id = r.id with
  | some x => exact ⟨_, .sameDocument hsame⟩
  | none =>
    obtain ⟨x, hx⟩ := Option.isSome_iff_exists.mp
      (List.find?_isSome (p := fun x => decide (x.id = r.id)) |>.mpr ⟨r, hr, by simp⟩)
    exact ⟨_, .otherDocument (by simpa using hsame) hx⟩

/-! ### Arrows -/

/-- What tells arrows apart. -/
def Arrow.key (a : Arrow) : String × String × EdgeKind := (a.source, a.target, a.kind)

lemma Arrow.parallels_iff {a b : Arrow} : a.parallels b ↔ a.key = b.key := by
  simp [parallels, key, and_assoc]

/-- Of arrows that are parallel, the first is kept. -/
lemma map_key_distinctArrows (arrows : List Arrow) :
    (distinctArrows arrows).map Arrow.key = (arrows.map Arrow.key).eraseDups := by
  induction arrows using List.reverseRecOn with
  | nil => rfl
  | append_singleton arrows a ih =>
    have hany : (distinctArrows arrows).any (fun b => b.parallels a) ↔
        a.key ∈ arrows.map Arrow.key := by
      rw [← List.mem_eraseDups, ← ih, List.any_eq_true, List.mem_map]
      simp only [Arrow.parallels_iff]
    rw [distinctArrows, List.foldl_concat, ← distinctArrows, List.map_append, List.map_singleton,
      eraseDups_concat]
    by_cases h : a.key ∈ arrows.map Arrow.key
    · rw [if_pos (hany.mpr h), if_pos h, ih]
    · rw [if_neg (fun hc => h (hany.mp hc)), if_neg h, List.map_append, List.map_singleton, ih]

/-- The arrow that a link of a record stands for. -/
def IsArrow (records : List Record) (r : Record) (l : Link) (a : Arrow) : Prop :=
  ∃ key, Resolves records r.document l.target key ∧
    a = ⟨nodeIdOf records r.groupKey, nodeIdOf records key, l.kind, l.condition⟩

lemma arrowOf_eq_ok_iff {records : List Record} {r : Record} {l : Link} {a : Arrow} :
    arrowOf records ((mergeKeys records).zip (assignIds [] (mergeKeys records)))
        (nodeIdOf records r.groupKey) r l = .ok a ↔ IsArrow records r l a := by
  unfold arrowOf
  cases hkey : resolveLink? records r.document l.target with
  | none =>
    simp only [Option.bind_none, reduceCtorEq, false_iff]
    rintro ⟨key, hresolves, -⟩
    rw [resolveLink?_eq_some_iff.mpr hresolves] at hkey
    exact absurd hkey (by simp)
  | some key =>
    have hresolves := resolveLink?_eq_some_iff.mp hkey
    simp only [Option.bind_some, get?_nodeIdOf hresolves.mem_mergeKeys]
    constructor
    · intro h
      exact ⟨key, hresolves, (Except.ok.inj h).symm⟩
    · rintro ⟨key', hresolves', rfl⟩
      rw [resolveLink?_eq_some_iff.mpr hresolves'] at hkey
      rw [Option.some.inj hkey]

/-- The links of all records, in the order of their nodes. -/
def linksOf (records : List Record) : List (Record × Link) :=
  (mergeKeys records).flatMap fun key =>
    (recordsWith records key).flatMap fun r => r.links.map fun l => (r, l)

lemma mem_linksOf {records : List Record} {r : Record} {l : Link} :
    (r, l) ∈ linksOf records ↔ r ∈ records ∧ l ∈ r.links := by
  simp only [linksOf, List.mem_flatMap, List.mem_map, mem_recordsWith, Prod.mk.injEq]
  constructor
  · rintro ⟨key, -, r', ⟨hr', -⟩, l', hl', rfl, rfl⟩
    exact ⟨hr', hl'⟩
  · rintro ⟨hr, hl⟩
    exact ⟨r.groupKey, groupKey_mem_mergeKeys hr, r, ⟨hr, rfl⟩, l, hl, rfl, rfl⟩

/-- A graph is put together from the nodes of the merge keys and the arrows of the links. -/
lemma assemble_eq (records : List Record) :
    FlowGraph.assemble records =
      ((linksOf records).mapM fun rl =>
        arrowOf records ((mergeKeys records).zip (assignIds [] (mergeKeys records)))
          (nodeIdOf records rl.1.groupKey) rl.1 rl.2) >>= fun arrows =>
            .ok (.ofParts ((mergeKeys records).map (nodeOf records)) (distinctArrows arrows)) := by
  have hmembers : (assignIds [] (mergeKeys records)).zip
      (OrderedMap.values (groupRecords records))
      = (mergeKeys records).map fun key => (nodeIdOf records key, recordsWith records key) := by
    rw [groupRecords_eq, OrderedMap.values, List.map_map, ← map_nodeIdOf, List.zip_map']
    rfl
  have hlinks : (mergeKeys records).flatMap (fun key => (recordsWith records key).flatMap fun r =>
        r.links.map fun l => (nodeIdOf records key, r, l))
      = (linksOf records).map fun rl => (nodeIdOf records rl.1.groupKey, rl.1, rl.2) := by
    rw [linksOf, List.map_flatMap]
    refine List.flatMap_congr fun key _ => ?_
    rw [List.map_flatMap]
    refine List.flatMap_congr fun r hr => ?_
    obtain rfl := (mem_recordsWith.mp hr).2
    rw [List.map_map]
    rfl
  simp only [FlowGraph.assemble, keys_groupRecords, hmembers, List.flatMap_map, hlinks,
    List.mapM_map, List.map_map]
  rfl

/-- A graph is put together exactly if every link leads somewhere. -/
theorem assemble_eq_ok_iff {records : List Record} {g : FlowGraph} :
    FlowGraph.assemble records = .ok g ↔ ∃ arrows,
      List.Forall₂ (fun rl a => IsArrow records rl.1 rl.2 a) (linksOf records) arrows ∧
        g = .ofParts ((mergeKeys records).map (nodeOf records)) (distinctArrows arrows) := by
  rw [assemble_eq, bind_eq_ok_iff]
  refine exists_congr fun arrows => and_congr ?_ ?_
  · rw [mapM_eq_ok_iff]
    simp only [arrowOf_eq_ok_iff]
  · rw [Except.ok.injEq, eq_comm]

/-- Where every link leads somewhere, the graph is put together. -/
lemma exists_assemble {records : List Record}
    (h : ∀ r ∈ records, ∀ l ∈ r.links, ∃ key, Resolves records r.document l.target key) :
    ∃ g, FlowGraph.assemble records = .ok g := by
  obtain ⟨arrows, harrows⟩ : ∃ arrows,
      List.Forall₂ (fun rl a => IsArrow records rl.1 rl.2 a) (linksOf records) arrows := by
    refine exists_forall₂ fun ⟨r, l⟩ hrl => ?_
    obtain ⟨hr, hl⟩ := mem_linksOf.mp hrl
    obtain ⟨key, hkey⟩ := h r hr l hl
    exact ⟨_, key, hkey, rfl⟩
  exact ⟨_, assemble_eq_ok_iff.mpr ⟨arrows, harrows, rfl⟩⟩

/-- A graph is not put together only because a link leads nowhere. -/
lemma exists_dangling_of_assemble {records : List Record} {e : BuildError}
    (h : FlowGraph.assemble records = .error e) :
    ∃ missing source, e = .dangling missing source := by
  rw [assemble_eq] at h
  rcases bind_eq_error_iff.mp h with h | ⟨arrows, -, h⟩
  · obtain ⟨before, rl, after, -, -, hfail⟩ := mapM_eq_error_iff.mp h
    simp only [arrowOf] at hfail
    split at hfail
    · exact absurd hfail (by simp)
    · exact ⟨_, _, (Except.error.inj hfail).symm⟩
  · exact absurd h (by simp)

end IntegrationFlow
