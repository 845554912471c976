import Mathlib
import IntegrationFlow.Text.Basic

/-!
# Trimmed texts, qualified names and places in a text

A text is trimmed when neither of its ends is white space. Trimming decides which ids are read back
from a document as they were written, and the part of a name behind its last colon decides what an
element is. Places in a text are counted in bytes.
-/

namespace IntegrationFlow.Text

/-! ### Trimming -/

lemma trimBy_eq_rdropWhile (p : Char → Bool) (cs : List Char) :
    trimBy p cs = (cs.dropWhile p).rdropWhile p := rfl

/-- Trimming keeps the characters exactly when neither end satisfies the predicate. -/
lemma trimBy_eq_self_iff {p : Char → Bool} {cs : List Char} :
    trimBy p cs = cs ↔ (∀ c ∈ cs.head?, p c = false) ∧ ∀ c ∈ cs.getLast?, p c = false := by
  rw [trimBy_eq_rdropWhile]
  constructor
  · intro h
    -- both cuts only remove characters, so neither may remove any
    have hdrop : cs.dropWhile p = cs := by
      refine (List.dropWhile_suffix p).eq_of_length_le ?_
      have hle := (List.rdropWhile_prefix p (l := cs.dropWhile p)).length_le
      rwa [h] at hle
    rw [hdrop] at h
    refine ⟨?_, ?_⟩
    · cases cs with
      | nil => simp
      | cons c cs =>
        intro c' hc'
        obtain rfl : c = c' := by simpa using hc'
        exact Bool.eq_false_iff.mpr (List.dropWhile_eq_self_iff.mp hdrop (by simp))
    · intro c hc
      obtain ⟨hne, rfl⟩ := List.mem_getLast?_eq_getLast hc
      simpa using List.rdropWhile_eq_self_iff.mp h hne
  · rintro ⟨hhead, hlast⟩
    have hdrop : cs.dropWhile p = cs := by
      cases cs with
      | nil => rfl
      | cons c cs => simp [hhead c (by simp)]
    rw [hdrop, List.rdropWhile_eq_self_iff]
    intro hne
    simp [hlast _ (List.getLast?_eq_some_getLast hne)]

lemma trimBy_concat {p : Char → Bool} {c : Char} (hc : p c) (cs : List Char) :
    trimBy p (cs ++ [c]) = trimBy p cs := by
  rw [trimBy_eq_rdropWhile, trimBy_eq_rdropWhile, List.dropWhile_append]
  split
  · rename_i hnil
    simp [List.isEmpty_iff.mp hnil, hc]
  · rw [List.rdropWhile_concat_pos _ _ _ hc]

/-- Characters that a trimming removes may be removed ahead of it. -/
lemma trimBy_trimBy_of_imp {p q : Char → Bool} (h : ∀ c, p c → q c) (cs : List Char) :
    trimBy q (trimBy p cs) = trimBy q cs := by
  have hright (ds : List Char) : trimBy q (ds.rdropWhile p) = trimBy q ds := by
    induction ds using List.reverseRecOn with
    | nil => rfl
    | append_singleton ds c ih =>
      rw [List.rdropWhile_concat]
      split
      · rename_i hc
        rw [ih, trimBy_concat (h c hc)]
      · rfl
  have hleft : (cs.dropWhile p).dropWhile q = cs.dropWhile q := by
    induction cs with
    | nil => rfl
    | cons c cs ih =>
      by_cases hc : p c
      · simp [hc, h c hc, ih]
      · simp [hc]
  rw [trimBy_eq_rdropWhile p, hright, trimBy, trimBy, hleft]

/-- What is trimmed stays as it is. -/
lemma trimBy_trimBy (p : Char → Bool) (cs : List Char) :
    trimBy p (trimBy p cs) = trimBy p cs :=
  trimBy_trimBy_of_imp (fun _ h => h) cs

lemma trim_trim (s : String) : trim (trim s) = trim s := by
  rw [trim, trim, String.toList_ofList, trimBy_trimBy]

/-- A text is trimmed when it does not change by trimming. -/
def IsTrimmed (s : String) : Prop := trim s = s

instance (s : String) : Decidable (IsTrimmed s) := inferInstanceAs (Decidable (trim s = s))

lemma isTrimmed_iff {s : String} :
    IsTrimmed s ↔ (∀ c ∈ s.toList.head?, isSpace c = false) ∧
      ∀ c ∈ s.toList.getLast?, isSpace c = false := by
  rw [← trimBy_eq_self_iff, IsTrimmed, trim, ← String.toList_inj, String.toList_ofList]

/-- A text without white space is trimmed. -/
lemma isTrimmed_of_forall {s : String} (h : ∀ c ∈ s.toList, isSpace c = false) : IsTrimmed s :=
  isTrimmed_iff.mpr ⟨fun c hc => h c (List.mem_of_mem_head? hc),
    fun c hc => h c (List.mem_of_getLast? hc)⟩

/-- A trimmed text after another that is not empty and trimmed makes a trimmed text. -/
lemma IsTrimmed.append {s t : String} (hs : IsTrimmed s) (hne : s ≠ "") (ht : IsTrimmed t) :
    IsTrimmed (s ++ t) := by
  rw [isTrimmed_iff] at hs ht ⊢
  have hne' : s.toList ≠ [] := by simpa using hne
  rw [String.toList_append]
  refine ⟨?_, ?_⟩
  · rw [List.head?_append_of_ne_nil _ hne']
    exact hs.1
  · rw [List.getLast?_append]
    cases hl : t.toList.getLast? with
    | none => simpa using hs.2
    | some c => simpa [hl] using ht.2

/-- Cutting white space off the front loses no other character. -/
lemma mem_dropWhile_of_mem {p : Char → Bool} {cs : List Char} {c : Char} (hc : c ∈ cs)
    (hp : ¬ p c) : c ∈ cs.dropWhile p := by
  rw [← List.takeWhile_append_dropWhile (p := p) (l := cs)] at hc
  rcases List.mem_append.mp hc with hc | hc
  · exact absurd (List.mem_takeWhile_imp hc) hp
  · exact hc

lemma mem_trimBy_of_mem {p : Char → Bool} {cs : List Char} {c : Char} (hc : c ∈ cs)
    (hp : ¬ p c) : c ∈ trimBy p cs := by
  rw [trimBy, List.mem_reverse]
  exact mem_dropWhile_of_mem (List.mem_reverse.mpr (mem_dropWhile_of_mem hc hp)) hp

lemma mem_of_mem_trimBy {p : Char → Bool} {cs : List Char} {c : Char} (hc : c ∈ trimBy p cs) :
    c ∈ cs := by
  rw [trimBy, List.mem_reverse] at hc
  have hc' := List.mem_reverse.mp ((List.dropWhile_suffix _).mem hc)
  exact (List.dropWhile_suffix _).mem hc'

/-- Trimming leaves a blank text blank and no other. -/
lemma isBlank_trim (s : String) : isBlank (trim s) = isBlank s := by
  rw [Bool.eq_iff_iff]
  simp only [isBlank, trim, String.toList_ofList, List.all_eq_true]
  constructor
  · intro h c hc
    by_contra hns
    exact hns (h c (mem_trimBy_of_mem hc hns))
  · intro h c hc
    exact h c (mem_of_mem_trimBy hc)

/-- Nothing is left of a blank text. -/
lemma trim_of_isBlank {s : String} (h : isBlank s) : trim s = "" := by
  have hnil : s.toList.dropWhile isSpace = [] :=
    List.dropWhile_eq_nil_iff.mpr (List.all_eq_true.mp h)
  rw [trim, trimBy, hnil]
  rfl

/-! ### What follows the last separator -/

lemma afterLast_eq_self {sep : Char} {s : String} (h : sep ∉ s.toList) : afterLast sep s = s := by
  rw [← String.toList_inj, afterLast, String.toList_ofList, List.takeWhile_eq_self_iff.mpr,
    List.reverse_reverse]
  intro c hc
  have hcs : c ≠ sep := by
    rintro rfl
    exact h (List.mem_reverse.mp hc)
  simpa using hcs

/-- Only what follows the separator counts, if it holds none itself. -/
lemma afterLast_append {sep : Char} {s t : String} (h : sep ∉ t.toList) :
    afterLast sep (s ++ String.singleton sep ++ t) = t := by
  rw [← String.toList_inj, afterLast, String.toList_ofList]
  have hrev : (s ++ String.singleton sep ++ t).toList.reverse
      = t.toList.reverse ++ sep :: s.toList.reverse := by simp
  rw [hrev, List.takeWhile_append_of_pos]
  · simp
  · intro c hc
    have hcs : c ≠ sep := by
      rintro rfl
      exact h (List.mem_reverse.mp hc)
    simpa using hcs

/-! ### Sizes in bytes -/

section Bytes

variable (cs ds : List Char)

lemma byteSize_append : byteSize (cs ++ ds) = byteSize cs + byteSize ds := by
  induction cs with
  | nil => simp [byteSize]
  | cons c cs ih => simp [byteSize, ih, Nat.add_assoc]

variable {cs ds} in
lemma byteSize_mono (h : cs <+: ds) : byteSize cs ≤ byteSize ds := by
  obtain ⟨rest, rfl⟩ := h
  rw [byteSize_append]
  exact Nat.le_add_right ..

/-- Where some characters end, a text can be cut. -/
lemma dropBytes?_append : dropBytes? (byteSize cs) (cs ++ ds) = some ds := by
  induction cs with
  | nil => cases ds <;> simp [byteSize, dropBytes?]
  | cons c cs ih =>
    have hpos := c.utf8Size_pos
    rw [List.cons_append, dropBytes?, byteSize, if_neg (by omega), if_pos (by omega),
      Nat.add_sub_cancel_left, ih]

lemma takeBytes?_append : takeBytes? (byteSize cs) (cs ++ ds) = some cs := by
  induction cs with
  | nil => cases ds <;> simp [byteSize, takeBytes?]
  | cons c cs ih =>
    have hpos := c.utf8Size_pos
    rw [List.cons_append, takeBytes?, byteSize, if_neg (by omega), if_pos (by omega),
      Nat.add_sub_cancel_left, ih, Option.map_some]

/-- The text between the places where two beginnings of it end. -/
lemma slice_eq {s : String} {before part after : List Char}
    (h : s.toList = before ++ part ++ after) :
    slice s (byteSize before) (byteSize (before ++ part)) = String.ofList part := by
  have hle := byteSize_mono (List.prefix_append before part)
  rw [slice, if_pos hle, h, List.append_assoc, dropBytes?_append, Option.bind_some,
    byteSize_append, Nat.add_sub_cancel_left, takeBytes?_append]

end Bytes

end IntegrationFlow.Text
