import Mathlib
import IntegrationFlow.Proofs.List
import IntegrationFlow.OrderedMap

/-!
# Entries of ordered maps

What a map holds after an entry was set, added or changed. A key is found with its value, and the
keys stay in the order in which they came.
-/

namespace IntegrationFlow.OrderedMap

variable {α β : Type}

@[simp] lemma keys_nil : keys ([] : OrderedMap α β) = [] := rfl

@[simp] lemma keys_cons (e : α × β) (m : OrderedMap α β) : keys (e :: m) = e.1 :: keys m := rfl

@[simp] lemma length_keys (m : OrderedMap α β) : (keys m).length = m.length := List.length_map ..

variable [DecidableEq α] {m : OrderedMap α β} {k : α} {v : β}

/-! ### Look-up -/

lemma contains_iff : contains m k ↔ k ∈ keys m := by
  simp [contains, keys]

lemma mem_of_get?_eq_some (h : get? m k = some v) : (k, v) ∈ m := by
  obtain ⟨e, he, rfl⟩ := Option.map_eq_some_iff.mp h
  have hkey : e.1 = k := by simpa using List.find?_some he
  rw [← hkey]
  exact List.mem_of_find?_eq_some he

lemma get?_eq_none_iff : get? m k = none ↔ k ∉ keys m := by
  rw [get?, Option.map_eq_none_iff, List.find?_eq_none, keys, List.mem_map]
  constructor
  · rintro h ⟨e, he, hk⟩
    exact h e he (by simpa using hk)
  · intro h e he hk
    exact h ⟨e, he, by simpa using hk⟩

lemma exists_get?_iff : (∃ v, get? m k = some v) ↔ k ∈ keys m := by
  rw [← Option.ne_none_iff_exists', ne_eq, get?_eq_none_iff, not_not]

/-- Where keys are distinct, every entry counts. -/
lemma get?_of_mem (hm : (keys m).Nodup) (h : (k, v) ∈ m) : get? m k = some v := by
  obtain ⟨v', hv'⟩ := exists_get?_iff.mpr (List.mem_map_of_mem h)
  have heq := List.inj_on_of_nodup_map hm (mem_of_get?_eq_some hv') h rfl
  rw [hv', (Prod.mk.inj heq).2]

/-- Where keys are distinct, an entry is the only one of its key. -/
lemma filter_eq_singleton (hm : (keys m).Nodup) (h : (k, v) ∈ m) :
    m.filter (fun e => e.1 = k) = [(k, v)] := by
  induction m with
  | nil => exact absurd h List.not_mem_nil
  | cons e m ih =>
    rw [keys_cons, List.nodup_cons] at hm
    obtain ⟨he, hm⟩ := hm
    rcases List.mem_cons.mp h with rfl | h
    · rw [List.filter_cons_of_pos (by simp), List.filter_eq_nil_iff.mpr]
      intro x hx hkey
      have hmem : x.1 ∈ keys m := List.mem_map_of_mem hx
      exact he (of_decide_eq_true hkey ▸ hmem)
    · have hmem : k ∈ keys m := List.mem_map_of_mem h
      have hne : e.1 ≠ k := fun heq => he (heq ▸ hmem)
      rw [List.filter_cons_of_neg (by simpa using hne), ih hm h]

/-- Where keys are distinct, reading them in any order gives the entries. -/
lemma filterMap_get?_perm (hm : (keys m).Nodup) {ks : List α} (hks : ks.Perm (keys m)) :
    (ks.filterMap fun k => (get? m k).map fun v => (k, v)).Perm m := by
  have hself : ((keys m).filterMap fun k => (get? m k).map fun v => (k, v)) = m := by
    rw [keys, List.filterMap_map]
    refine (List.filterMap_congr fun e he => ?_).trans List.filterMap_some
    rw [Function.comp_apply, get?_of_mem hm he, Option.map_some]
  exact (hks.filterMap _).trans (.of_eq hself)

/-- Where keys are distinct, reading the keys of some entries gives their values. -/
lemma filterMap_keys {γ : Type} (hm : (keys m).Nodup) {part : OrderedMap α β} (hpart : part ⊆ m)
    (f : Option β → Option γ) :
    (keys part).filterMap (fun k => f (get? m k)) = part.filterMap fun e => f (some e.2) := by
  rw [keys, List.filterMap_map]
  refine List.filterMap_congr fun e he => ?_
  rw [Function.comp_apply, get?_of_mem hm (hpart he)]

/-! ### Setting an entry -/

lemma get?_insert (m : OrderedMap α β) (k : α) (v : β) (k' : α) :
    get? (insert m k v) k' = if k = k' then some v else get? m k' := by
  induction m with
  | nil => simp [insert, get?_cons]
  | cons e m ih =>
    rw [insert]
    by_cases he : e.1 = k
    · rw [if_pos he, get?_cons, get?_cons, he]
      split <;> rfl
    · rw [if_neg he, get?_cons, get?_cons, ih]
      by_cases hk : k = k'
      · simp [← hk, he]
      · simp [hk]

lemma keys_insert (m : OrderedMap α β) (k : α) (v : β) :
    keys (insert m k v) = if k ∈ keys m then keys m else keys m ++ [k] := by
  induction m with
  | nil => simp [insert]
  | cons e m ih =>
    rw [insert]
    by_cases he : e.1 = k
    · simp [he]
    · rw [if_neg he, keys_cons, ih, keys_cons]
      by_cases hk : k ∈ keys m
      · simp [hk]
      · simp [hk, Ne.symm he]

lemma mem_keys_insert {k' : α} : k' ∈ keys (insert m k v) ↔ k' ∈ keys m ∨ k' = k := by
  rw [keys_insert]
  split
  · constructor
    · exact Or.inl
    · rintro (h | rfl)
      · exact h
      · assumption
  · rw [List.mem_append, List.mem_singleton]

/-- A new key goes to the end. -/
lemma insert_of_notMem (h : k ∉ keys m) (v : β) : insert m k v = m ++ [(k, v)] := by
  induction m with
  | nil => rfl
  | cons e m ih =>
    rw [keys_cons, List.mem_cons, not_or] at h
    rw [insert, if_neg (Ne.symm h.1), ih h.2, List.cons_append]

/-- Distinct entries that are set one after the other are the map. -/
lemma ofList_eq_self {entries : List (α × β)} (h : (keys entries).Nodup) :
    ofList entries = entries := by
  induction entries using List.reverseRecOn with
  | nil => rfl
  | append_singleton entries e ih =>
    have hsplit : keys (entries ++ [e]) = keys entries ++ [e.1] := List.map_append
    rw [hsplit, List.nodup_append] at h
    rw [ofList, List.foldl_concat, ← ofList, ih h.1]
    exact insert_of_notMem (fun hmem => h.2.2 e.1 hmem e.1 (List.mem_singleton_self _) rfl) e.2

lemma mem_keys_ofList {entries : List (α × β)} :
    k ∈ keys (ofList entries) ↔ k ∈ keys entries := by
  induction entries using List.reverseRecOn with
  | nil => rfl
  | append_singleton entries e ih =>
    rw [ofList, List.foldl_concat, ← ofList, mem_keys_insert, ih, keys, keys, List.map_append,
      List.mem_append, List.map_singleton, List.mem_singleton]

/-- A key has the place of its first entry. -/
lemma keys_ofList (entries : List (α × β)) : keys (ofList entries) = (keys entries).eraseDups := by
  induction entries using List.reverseRecOn with
  | nil => rfl
  | append_singleton entries e ih =>
    have hsplit : keys (entries ++ [e]) = keys entries ++ [e.1] := List.map_append
    rw [ofList, List.foldl_concat, ← ofList, keys_insert, ih, hsplit, eraseDups_concat]
    simp only [List.mem_eraseDups]

/-- Every value is kept exactly if no two entries have one key. -/
lemma values_ofList_eq_iff {entries : List (α × β)} :
    values (ofList entries) = entries.map Prod.snd ↔ (keys entries).Nodup := by
  constructor
  · intro h
    have hlen : (ofList entries).length = entries.length := by
      simpa [values] using congrArg List.length h
    rw [← length_keys, keys_ofList, ← length_keys entries] at hlen
    have hsubset : (keys entries).eraseDups ⊆ keys entries := fun k hk => List.mem_eraseDups.mp hk
    have hperm := (nodup_eraseDups (keys entries)).subperm hsubset |>.perm_of_length_le hlen.ge
    exact hperm.nodup_iff.mp (nodup_eraseDups _)
  · intro h
    rw [ofList_eq_self h, values]

/-- What is set last for a key was set for it. -/
lemma mem_of_get?_ofList {entries : List (α × β)} (h : get? (ofList entries) k = some v) :
    (k, v) ∈ entries := by
  induction entries using List.reverseRecOn with
  | nil => simp [ofList] at h
  | append_singleton entries e ih =>
    rw [ofList, List.foldl_concat, ← ofList, get?_insert] at h
    split at h
    · rename_i hk
      obtain rfl := hk
      obtain rfl := Option.some.inj h
      simp
    · exact List.mem_append_left _ (ih h)

/-! ### Counting -/

lemma keys_foldl_tally (ks : List α) : keys (ks.foldl tally []) = ks.eraseDups := by
  induction ks using List.reverseRecOn with
  | nil => rfl
  | append_singleton ks k ih =>
    rw [List.foldl_concat, tally, keys_insert, ih, eraseDups_concat]
    simp only [List.mem_eraseDups]

lemma get?_foldl_tally (ks : List α) (k : α) :
    get? (ks.foldl tally []) k = if k ∈ ks then some (ks.count k) else none := by
  induction ks using List.reverseRecOn generalizing k with
  | nil => rfl
  | append_singleton ks k' ih =>
    have hcount : ((get? (ks.foldl tally []) k').getD 0) = ks.count k' := by
      rw [ih]
      split
      · rfl
      · exact (List.count_eq_zero.mpr ‹_›).symm
    rw [List.foldl_concat, tally, get?_insert, hcount, ih]
    by_cases hk : k' = k
    · simp [hk]
    · simp [hk, Ne.symm hk]

/-- The entries count how often each key occurs. -/
lemma mem_foldl_tally {ks : List α} {n : Nat} :
    (k, n) ∈ ks.foldl tally [] ↔ k ∈ ks ∧ n = ks.count k := by
  have hnodup : (keys (ks.foldl tally [])).Nodup := keys_foldl_tally ks ▸ nodup_eraseDups ks
  have hget : (k, n) ∈ ks.foldl tally [] ↔ get? (ks.foldl tally []) k = some n :=
    ⟨get?_of_mem hnodup, mem_of_get?_eq_some⟩
  rw [hget, get?_foldl_tally]
  split
  · simp [*, eq_comm]
  · simp [*]

/-! ### Changing an entry -/

lemma get?_modify (m : OrderedMap α β) (k : α) (f : β → β) (k' : α) :
    get? (modify m k f) k' = if k = k' then (get? m k').map f else get? m k' := by
  induction m with
  | nil => simp [modify]
  | cons e m ih =>
    rw [modify]
    by_cases he : e.1 = k
    · rw [if_pos he, get?_cons, get?_cons, he]
      by_cases hk : k = k' <;> simp [hk]
    · rw [if_neg he, get?_cons, get?_cons, ih]
      by_cases hk : k = k'
      · simp [← hk, he]
      · simp [hk]

lemma keys_modify (m : OrderedMap α β) (k : α) (f : β → β) : keys (modify m k f) = keys m := by
  induction m with
  | nil => rfl
  | cons e m ih =>
    rw [modify]
    split
    · rfl
    · rw [keys_cons, keys_cons, ih]

/-- Where keys are distinct, changing the first entry of a key changes all of them. -/
lemma modify_eq_map (hm : (keys m).Nodup) (k : α) (f : β → β) :
    modify m k f = m.map fun e => (e.1, if e.1 = k then f e.2 else e.2) := by
  induction m with
  | nil => rfl
  | cons e m ih =>
    obtain ⟨he, hm⟩ := List.nodup_cons.mp hm
    rw [modify, List.map_cons, ih hm]
    split
    · rename_i hek
      have hrest : m.map (fun e => (e.1, if e.1 = k then f e.2 else e.2)) = m := by
        refine (List.map_congr_left fun x hx => ?_).trans (List.map_id m)
        rw [if_neg fun hxk => he (List.mem_map.mpr ⟨x, hx, hxk.trans hek.symm⟩)]
        rfl
      rw [hrest]
    · rfl

/-! ### Maps given by a function -/

lemma get?_map_pair (ks : List α) (f : α → β) (k : α) :
    get? (ks.map fun k => (k, f k)) k = if k ∈ ks then some (f k) else none := by
  induction ks with
  | nil => rfl
  | cons k' ks ih =>
    rw [List.map_cons, get?_cons, ih]
    by_cases h : k' = k
    · simp [h]
    · simp [h, Ne.symm h]

/-- Setting an entry of a map that a function gives changes the function at that key. -/
lemma insert_map_pair {ks : List α} (hks : ks.Nodup) (f : α → β) (k : α) (v : β) :
    insert (ks.map fun k => (k, f k)) k v
      = (if k ∈ ks then ks else ks ++ [k]).map fun k' => (k', if k' = k then v else f k') := by
  induction ks with
  | nil => simp [insert]
  | cons k' ks ih =>
    obtain ⟨hk', hks⟩ := List.nodup_cons.mp hks
    rw [List.map_cons, insert]
    by_cases h : k' = k
    · subst h
      rw [if_pos rfl, if_pos (List.mem_cons_self ..), List.map_cons, if_pos rfl]
      congr 1
      refine List.map_congr_left fun x hx => ?_
      have hne : x ≠ k' := fun heq => hk' (heq ▸ hx)
      rw [if_neg hne]
    · rw [if_neg h, ih hks]
      by_cases hk : k ∈ ks
      · simp [hk, h]
      · simp [hk, h, Ne.symm h]

/-- The values that distinct keys are paired with are found by the keys. -/
lemma map_get?_zip {ks : List α} {vs : List β} (hks : ks.Nodup) (hlen : vs.length = ks.length)
    (default : β) : (ks.map fun k => (get? (ks.zip vs) k).getD default) = vs := by
  induction ks generalizing vs with
  | nil => exact (List.length_eq_zero_iff.mp hlen).symm
  | cons k ks ih =>
    cases vs with
    | nil => simp at hlen
    | cons v vs =>
      obtain ⟨hk, hks⟩ := List.nodup_cons.mp hks
      rw [List.zip_cons_cons, List.map_cons, get?_cons, if_pos rfl, Option.getD_some]
      congr 1
      rw [← ih hks (Nat.succ.inj hlen)]
      refine List.map_congr_left fun k' hk' => ?_
      have hne : k ≠ k' := fun heq => hk (heq ▸ hk')
      rw [get?_cons, if_neg hne, ih hks (Nat.succ.inj hlen)]

/-! ### Adding and changing entries -/

lemma keys_insertNew (m : OrderedMap α β) (k : α) (v : β) :
    keys (insertNew m k v) = if k ∈ keys m then keys m else keys m ++ [k] := by
  rw [insertNew]
  by_cases h : k ∈ keys m
  · rw [if_pos (contains_iff.mpr h), if_pos h]
  · rw [if_neg (fun hc => h (contains_iff.mp hc)), if_neg h]
    exact List.map_append

lemma mem_keys_insertNew {k' : α} : k' ∈ keys (insertNew m k v) ↔ k' ∈ keys m ∨ k' = k := by
  rw [keys_insertNew, ← keys_insert m k v, mem_keys_insert]

/-- Entries with new keys go to the end, in the order in which their keys come first. -/
lemma foldl_insertNew (known entries : OrderedMap α β) :
    ∃ rest, entries.foldl (fun m e => insertNew m e.1 e.2) known = known ++ rest ∧
      keys rest = (keys entries).eraseDups.filter (fun k => k ∉ keys known) ∧
      ∀ e ∈ rest, get? entries e.1 = some e.2 := by
  induction entries using List.reverseRecOn with
  | nil => exact ⟨[], by simp⟩
  | append_singleton entries e ih =>
    obtain ⟨rest, hfold, hkeys, hvalues⟩ := ih
    have hsplit : keys (entries ++ [e]) = keys entries ++ [e.1] := List.map_append
    have hget : ∀ x ∈ rest, get? (entries ++ [e]) x.1 = some x.2 := by
      intro x hx
      have hfound := hvalues x hx
      rw [get?, Option.map_eq_some_iff] at hfound ⊢
      obtain ⟨y, hy, heq⟩ := hfound
      exact ⟨y, by rw [List.find?_append, hy, Option.some_or], heq⟩
    have hmem : e.1 ∈ keys (known ++ rest) ↔ e.1 ∈ keys known ∨ e.1 ∈ keys entries := by
      rw [keys, List.map_append, List.mem_append, ← keys, ← keys, hkeys, List.mem_filter,
        List.mem_eraseDups, decide_eq_true_iff]
      tauto
    rw [List.foldl_concat, hfold, insertNew, hsplit, eraseDups_concat]
    by_cases hnew : e.1 ∈ keys (known ++ rest)
    · refine ⟨rest, if_pos (contains_iff.mpr hnew), ?_, hget⟩
      split
      · exact hkeys
      · rename_i hentries
        have hknown := (hmem.mp hnew).resolve_right hentries
        rw [List.filter_append, ← hkeys, List.filter_cons_of_neg (by simpa using hknown),
          List.filter_nil, List.append_nil]
    · obtain ⟨hknown, hentries⟩ := not_or.mp fun h => hnew (hmem.mpr h)
      refine ⟨rest ++ [e], ?_, ?_, ?_⟩
      · rw [if_neg fun h => hnew (contains_iff.mp h), List.append_assoc]
      · rw [if_neg hentries, List.filter_append, ← hkeys,
          List.filter_cons_of_pos (by simpa using hknown), List.filter_nil]
        exact List.map_append
      · intro x hx
        rcases List.mem_append.mp hx with hx | hx
        · exact hget x hx
        · obtain rfl := List.mem_singleton.mp hx
          have hnone := get?_eq_none_iff.mpr hentries
          rw [get?, Option.map_eq_none_iff] at hnone
          rw [get?, List.find?_append, hnone]
          simp

end IntegrationFlow.OrderedMap
