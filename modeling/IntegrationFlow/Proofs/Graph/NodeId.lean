import Mathlib
import IntegrationFlow.Proofs.List
import IntegrationFlow.Proofs.Text
import IntegrationFlow.Graph.Builder

/-!
# Ids of nodes

Every key gets an id of its own, made of characters that may stand in an id. Where keys become the
same id, a number that is free tells them apart.
-/

namespace IntegrationFlow

/-! ### Characters -/

/-- A text that can be the id of a node. -/
def IsNodeId (s : String) : Prop := s ≠ "" ∧ ∀ c ∈ s.toList, isIdChar c

/-- No character of an id is white space. -/
lemma isSpace_of_isIdChar {c : Char} (h : isIdChar c) : Text.isSpace c = false := by
  have hrange : 0x2D ≤ c.toNat ∧ c.toNat ≤ 0x7A := by
    simp only [isIdChar, Char.isAlphanum, Char.isAlpha, Char.isUpper, Char.isLower, Char.isDigit,
      Bool.or_eq_true, Bool.and_eq_true, decide_eq_true_eq, beq_iff_eq, ge_iff_le,
      UInt32.le_iff_toNat_le] at h
    rcases h with ((h | rfl) | rfl) | rfl
    · simp at h
      omega
    · decide
    · decide
    · decide
  -- the characters of ids lie between two runs of white space
  have hbefore : ¬ c.toNat ≤ 0xD ∧ ¬ c.toNat ≤ 0x20 := by omega
  have hafter : c.toNat ≤ 0x85 ∧ ¬ 0x85 ≤ c.toNat := by omega
  simp [Text.isSpace, Text.inRuns, hbefore, hafter]

lemma IsNodeId.isTrimmed {s : String} (h : IsNodeId s) : Text.IsTrimmed s :=
  Text.isTrimmed_of_forall fun c hc => isSpace_of_isIdChar (h.2 c hc)

lemma isNodeId_sanitize (key : String) : IsNodeId (sanitize key) := by
  have hall : ∀ c ∈ key.toList.map fun c => if isIdChar c then c else '_', isIdChar c := by
    intro c hc
    obtain ⟨x, -, rfl⟩ := List.mem_map.mp hc
    split
    · assumption
    · decide
  unfold sanitize
  split
  · exact ⟨by decide, List.all_eq_true.mp (by decide)⟩
  · rename_i c cs hcs
    rw [hcs] at hall
    split
    · exact ⟨by simp [← String.toList_inj], by simpa using hall⟩
    · refine ⟨by simp [← String.toList_inj], ?_⟩
      rw [String.toList_ofList]
      rintro x (_ | ⟨_, hx⟩)
      · decide
      · exact hall x hx

/-! ### Numbers -/

/-- A base with a number behind it. -/
def numbered (base : String) (i : Nat) : String := base ++ "_" ++ toString (i + 2)

lemma numbered_injective (base : String) : Function.Injective (numbered base) := by
  intro i j h
  have hrepr : (i + 2).repr = (j + 2).repr := String.append_right_inj _ |>.mp h
  exact Nat.add_right_cancel (Nat.repr_inj.mp hrepr)

lemma isDigit_of_mem_toString {n : Nat} {c : Char} (h : c ∈ (toString n).toList) : c.isDigit := by
  refine Nat.isDigit_of_mem_toDigits (b := 10) (n := n) (by decide) (by decide) ?_
  rwa [← Nat.toList_repr]

lemma isIdChar_of_mem_toString {n : Nat} {c : Char} (h : c ∈ (toString n).toList) :
    isIdChar c := by
  simp [isIdChar, Char.isAlphanum, isDigit_of_mem_toString h]

lemma IsNodeId.numbered {base : String} (h : IsNodeId base) (i : Nat) :
    IsNodeId (numbered base i) := by
  constructor
  · intro hempty
    have hlength := congrArg String.length hempty
    simp [IntegrationFlow.numbered] at hlength
  · intro c hc
    rw [IntegrationFlow.numbered, String.toList_append, String.toList_append, List.mem_append,
      List.mem_append] at hc
    rcases hc with (hc | hc) | hc
    · exact h.2 c hc
    · obtain rfl : c = '_' := by simpa using hc
      decide
    · exact isIdChar_of_mem_toString hc

lemma freshId_eq (taken : List String) (base : String) :
    freshId taken base
      = if base ∈ taken then
          (((List.range (taken.length + 1)).map (numbered base)).find? (· ∉ taken)).getD base
        else base := rfl

/-- Numbers that give nothing but ids that are taken are fewer than these ids. -/
lemma lt_length_of_numbered_mem {taken : List String} {base : String} {n : Nat}
    (hbase : base ∈ taken) (h : ∀ i < n, numbered base i ∈ taken) : n < taken.length := by
  have hnodup : (base :: (List.range n).map (numbered base)).Nodup := by
    refine List.nodup_cons.mpr ⟨fun hmem => ?_, List.nodup_range.map (numbered_injective base)⟩
    obtain ⟨i, -, hi⟩ := List.mem_map.mp hmem
    have hlength := congrArg String.length hi
    rw [numbered, String.length_append, String.length_append] at hlength
    have hone : "_".length = 1 := rfl
    omega
  have hsub : base :: (List.range n).map (numbered base) ⊆ taken := by
    refine List.cons_subset.mpr ⟨hbase, fun id hid => ?_⟩
    obtain ⟨i, hi, rfl⟩ := List.mem_map.mp hid
    exact h i (List.mem_range.mp hi)
  have hle := (List.subperm_of_subset hnodup hsub).length_le
  rw [List.length_cons, List.length_map, List.length_range] at hle
  omega

/-- If a base is taken, a number tells the next id apart: the least that gives an id which is not
taken. -/
lemma exists_freshId_eq {taken : List String} {base : String} (h : base ∈ taken) :
    ∃ i < taken.length, freshId taken base = numbered base i ∧ numbered base i ∉ taken ∧
      ∀ j < i, numbered base j ∈ taken := by
  cases hfind : (List.range (taken.length + 1)).find? (numbered base · ∉ taken) with
  | none =>
    -- one more number than ids are taken cannot all give ids that are
    have hall : ∀ i < taken.length + 1, numbered base i ∈ taken := by
      simpa [List.find?_eq_none] using hfind
    have hlt := lt_length_of_numbered_mem h hall
    omega
  | some i =>
    obtain ⟨hfree, -, hbefore⟩ := List.find?_range_eq_some.mp hfind
    have hbefore : ∀ j < i, numbered base j ∈ taken := by simpa using hbefore
    refine ⟨i, lt_length_of_numbered_mem h hbefore, ?_, by simpa using hfree, hbefore⟩
    rw [freshId_eq, if_pos h, List.find?_map]
    simp only [Function.comp_def, hfind, Option.map_some, Option.getD_some]

lemma freshId_of_notMem {taken : List String} {base : String} (h : base ∉ taken) :
    freshId taken base = base := if_neg h

/-- An id that was not taken, of the same characters. -/
lemma freshId_spec (taken : List String) {base : String} (h : IsNodeId base) :
    freshId taken base ∉ taken ∧ IsNodeId (freshId taken base) := by
  by_cases hbase : base ∈ taken
  · obtain ⟨i, -, heq, hfree, -⟩ := exists_freshId_eq hbase
    rw [heq]
    exact ⟨hfree, h.numbered i⟩
  · rw [freshId_of_notMem hbase]
    exact ⟨hbase, h⟩

/-! ### One id for each key -/

lemma length_assignIds (taken keys : List String) :
    (assignIds taken keys).length = keys.length := by
  induction keys generalizing taken with
  | nil => rfl
  | cons key keys ih => simp [assignIds, ih]

lemma isNodeId_of_mem_assignIds {taken keys : List String} {id : String}
    (h : id ∈ assignIds taken keys) : IsNodeId id := by
  induction keys generalizing taken with
  | nil => exact absurd h List.not_mem_nil
  | cons key keys ih =>
    rcases List.mem_cons.mp h with rfl | h
    · exact (freshId_spec taken (isNodeId_sanitize key)).2
    · exact ih h

/-- The ids are distinct, and none of them was taken. -/
lemma nodup_assignIds (taken keys : List String) :
    (assignIds taken keys).Nodup ∧ ∀ id ∈ assignIds taken keys, id ∉ taken := by
  induction keys generalizing taken with
  | nil => exact ⟨List.nodup_nil, by simp [assignIds]⟩
  | cons key keys ih =>
    have hfresh := (freshId_spec taken (isNodeId_sanitize key)).1
    obtain ⟨hnodup, hnew⟩ := ih (freshId taken (sanitize key) :: taken)
    constructor
    · refine List.nodup_cons.mpr ⟨fun hmem => ?_, hnodup⟩
      exact hnew _ hmem (List.mem_cons_self ..)
    · intro id hid
      rcases List.mem_cons.mp hid with rfl | hid
      · exact hfresh
      · exact fun hmem => hnew id hid (List.mem_cons_of_mem _ hmem)

/-! ### Names -/

/-- An id that begins as the name of an XML element does. -/
structure IsPlainName (s : String) : Prop where
  isNodeId : IsNodeId s
  begins : ∃ c ∈ s.toList.head?, c.isAlpha ∨ c = '_'

lemma IsPlainName.numbered {base : String} (h : IsPlainName base) (i : Nat) :
    IsPlainName (numbered base i) := by
  refine ⟨h.isNodeId.numbered i, ?_⟩
  obtain ⟨c, hc, hbegins⟩ := h.begins
  refine ⟨c, ?_, hbegins⟩
  rw [IntegrationFlow.numbered, String.toList_append, String.toList_append]
  simp [Option.mem_def.mp hc]

lemma isPlainName_sanitize (key : String) : IsPlainName (sanitize key) := by
  refine ⟨isNodeId_sanitize key, ?_⟩
  unfold sanitize
  split
  · exact ⟨'n', by decide, by decide⟩
  · rename_i c cs _
    split
    · rename_i hbegins
      exact ⟨c, by simp, by simpa using hbegins⟩
    · exact ⟨'_', by simp, Or.inr rfl⟩

/-- Only names are left as they are. -/
lemma sanitize_eq_self_iff {key : String} : sanitize key = key ↔ IsPlainName key := by
  constructor
  · intro h
    exact h ▸ isPlainName_sanitize key
  · intro h
    obtain ⟨c, hc, hbegins⟩ := h.begins
    obtain ⟨cs, hcs⟩ := List.head?_eq_some_iff.mp hc
    have hchars : key.toList.map (fun c => if isIdChar c then c else '_') = c :: cs := by
      rw [← hcs]
      refine (List.map_congr_left fun c hc => ?_).trans (List.map_id _)
      exact if_pos (h.isNodeId.2 c hc)
    have hfirst : (c.isAlpha || c == '_') = true := by simpa using hbegins
    unfold sanitize
    rw [hchars]
    simp only [hfirst, if_true]
    rw [← hcs, String.ofList_toList]

/-- `id` is the base itself, or else, if the base is taken, the base with the least number from two
on that gives an id which is not. There are no more numbers to try than ids that are taken. -/
def IsNextId (taken : List String) (base id : String) : Prop :=
  (base ∉ taken ∧ id = base) ∨
    (base ∈ taken ∧ ∃ k ≤ taken.length + 1, id = base ++ "_" ++ toString k ∧
      IsLeast {k | 2 ≤ k ∧ base ++ "_" ++ toString k ∉ taken} k)

lemma isNextId_freshId (taken : List String) (base : String) :
    IsNextId taken base (freshId taken base) := by
  by_cases h : base ∈ taken
  · obtain ⟨i, hi, heq, hfree, hbefore⟩ := exists_freshId_eq h
    refine Or.inr ⟨h, i + 2, by omega, heq, ⟨by omega, hfree⟩, ?_⟩
    rintro k ⟨hk, hfree⟩
    by_contra hlt
    obtain ⟨j, rfl⟩ : ∃ j, k = j + 2 := ⟨k - 2, by omega⟩
    exact hfree (hbefore j (by omega))
  · exact Or.inl ⟨h, freshId_of_notMem h⟩

/-- What is taken may be listed in any order. -/
lemma IsNextId.of_perm {taken taken' : List String} {base id : String}
    (h : IsNextId taken base id) (hperm : taken.Perm taken') : IsNextId taken' base id := by
  simpa only [IsNextId, hperm.mem_iff, hperm.length_eq] using h

/-- Each key in turn gets the next id of its sanitized form. -/
lemma exists_getElem?_assignIds (taken : List String) {keys : List String} {i : Nat} {key : String}
    (h : keys[i]? = some key) : ∃ id, (assignIds taken keys)[i]? = some id ∧ IsPlainName id ∧
      IsNextId ((assignIds taken keys).take i ++ taken) (sanitize key) id := by
  induction keys generalizing taken i with
  | nil => exact absurd h (by simp)
  | cons first keys ih =>
    cases i with
    | zero =>
      obtain rfl : first = key := by simpa using h
      have hnext := isNextId_freshId taken (sanitize first)
      refine ⟨freshId taken (sanitize first), rfl, ?_, hnext⟩
      rcases hnext with ⟨-, heq⟩ | ⟨-, k, -, heq, ⟨hk, -⟩, -⟩
      · rw [heq]
        exact isPlainName_sanitize first
      · obtain ⟨j, rfl⟩ : ∃ j, k = j + 2 := ⟨k - 2, by omega⟩
        rw [heq]
        exact (isPlainName_sanitize first).numbered j
    | succ i =>
      obtain ⟨id, hid, hname, hnext⟩ := ih _ (by simpa using h)
      refine ⟨id, hid, hname, hnext.of_perm ?_⟩
      rw [assignIds, List.take_succ_cons, List.cons_append]
      exact List.perm_middle

/-- Every key gets an id of its own, whatever the keys are. The ids are names, and each is the
sanitized form of its key, with the least number behind it that is needed to tell it from the ids of
earlier keys. A key is its own sanitized form exactly if it is a name. -/
theorem assignIds_names_apart (keys : List String) :
    (assignIds [] keys).length = keys.length ∧ (assignIds [] keys).Nodup ∧
      (∀ i key, keys[i]? = some key → ∃ id, (assignIds [] keys)[i]? = some id ∧ IsPlainName id ∧
        IsNextId ((assignIds [] keys).take i) (sanitize key) id) ∧
      ∀ key ∈ keys, sanitize key = key ↔ IsPlainName key := by
  refine ⟨length_assignIds [] keys, (nodup_assignIds [] keys).1, fun i key h => ?_, ?_⟩
  · obtain ⟨id, hid, hname, hnext⟩ := exists_getElem?_assignIds [] h
    rw [List.append_nil] at hnext
    exact ⟨id, hid, hname, hnext⟩
  · exact fun key _ => sanitize_eq_self_iff

/-- The second key is a name that the third would get otherwise. -/
theorem assignIds_crossingKeys :
    assignIds [] ["a b", "a_b_2", "a/b", ""] = ["a_b", "a_b_2", "a_b_3", "node"] ∧
      ["a b", "a_b_2", "a/b", ""][2]? = some "a/b" ∧
      ∃ id, (assignIds [] ["a b", "a_b_2", "a/b", ""])[2]? = some id ∧ IsPlainName id ∧
        IsNextId ((assignIds [] ["a b", "a_b_2", "a/b", ""]).take 2) (sanitize "a/b") id :=
  ⟨by decide, rfl, (assignIds_names_apart _).2.2.1 2 "a/b" rfl⟩

end IntegrationFlow
