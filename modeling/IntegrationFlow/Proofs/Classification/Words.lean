import Mathlib
import IntegrationFlow.Classification.Keyword

/-!
# Words of a text

A text is cut into words at punctuation and before humps, and nowhere else. The cuts lose nothing:
put together again, the words are the folded text.
-/

namespace IntegrationFlow.Classification

/-! ### Cuts -/

/-- `c` stands in the same word as the letter or number before it; `next` is what follows `c`. -/
def GoesOn (previous c : Char) (next : Option Char) : Prop :=
  Text.isAlphanumeric c ∧ ¬ isHump (some previous) c next

/-- `words` are the words of some characters, as they are written: whatever is no letter or number
is left out, and each of the others shares the word of the next character if that goes on. -/
inductive Cut : List Char → List (List Char) → Prop where
  | nil : Cut [] []
  | gap {c : Char} {cs : List Char} {words : List (List Char)} (hc : ¬ Text.isAlphanumeric c)
      (rest : Cut cs words) : Cut (c :: cs) words
  | last {c : Char} {cs : List Char} {words : List (List Char)} (hc : Text.isAlphanumeric c)
      (hnext : ∀ d ds, cs = d :: ds → ¬ GoesOn c d ds.head?) (rest : Cut cs words) :
      Cut (c :: cs) ([c] :: words)
  | inner {c d : Char} {cs word : List Char} {words : List (List Char)}
      (hc : Text.isAlphanumeric c) (hnext : GoesOn c d cs.head?)
      (rest : Cut (d :: cs) (word :: words)) : Cut (c :: d :: cs) ((c :: word) :: words)

namespace Cut

variable {cs : List Char} {words : List (List Char)}

/-- No word is empty. -/
lemma ne_nil (h : Cut cs words) : ∀ word ∈ words, word ≠ [] := by
  induction h with
  | nil => simp
  | gap _ _ ih => exact ih
  | last _ _ _ ih => simpa using ih
  | inner _ _ _ ih =>
    rw [List.forall_mem_cons] at ih ⊢
    exact ⟨by simp, ih.2⟩

/-- The words are all of the letters and numbers, in their order. -/
lemma flatten_eq (h : Cut cs words) : words.flatten = cs.filter Text.isAlphanumeric := by
  induction h with
  | nil => rfl
  | gap hc _ ih => rw [ih, List.filter_cons_of_neg hc]
  | last hc _ _ ih => rw [List.flatten_cons, ih, List.filter_cons_of_pos hc, List.singleton_append]
  | inner hc _ _ ih =>
    rw [List.filter_cons_of_pos hc, ← ih, List.flatten_cons, List.flatten_cons, List.cons_append]

/-- A letter or number stands in a word. -/
lemma exists_cons {c : Char} (h : Cut (c :: cs) words) (hc : Text.isAlphanumeric c) :
    ∃ word rest, words = word :: rest := by
  cases h with
  | gap hgap _ => exact absurd hc hgap
  | last _ _ _ => exact ⟨_, _, rfl⟩
  | inner _ _ _ => exact ⟨_, _, rfl⟩

/-- Every text can be cut. -/
lemma exists_words (cs : List Char) : ∃ words, Cut cs words := by
  induction cs with
  | nil => exact ⟨[], .nil⟩
  | cons c cs ih =>
    obtain ⟨words, hwords⟩ := ih
    by_cases hc : Text.isAlphanumeric c
    · by_cases hnext : ∃ d ds, cs = d :: ds ∧ GoesOn c d ds.head?
      · obtain ⟨d, ds, rfl, hgoes⟩ := hnext
        obtain ⟨word, rest, rfl⟩ := hwords.exists_cons hgoes.1
        exact ⟨_, .inner hc hgoes hwords⟩
      · exact ⟨_, .last hc (fun d ds hds hgoes => hnext ⟨d, ds, hds, hgoes⟩) hwords⟩
    · exact ⟨words, .gap hc hwords⟩

end Cut

/-! ### Lower case -/

/-- A word in lower case. -/
def lowered (word : List Char) : List Char := word.flatMap Text.lowerChar

@[simp] lemma lowered_cons (c : Char) (word : List Char) :
    lowered (c :: word) = Text.lowerChar c ++ lowered word := rfl

/-- Lower case may lengthen a word, but it loses no character. -/
lemma lowerChar_ne_nil (c : Char) : Text.lowerChar c ≠ [] := by
  unfold Text.lowerChar
  split
  · simp
  · split
    · split <;> simp
    · simp

lemma lowered_ne_nil {word : List Char} (h : word ≠ []) : lowered word ≠ [] := by
  cases word with
  | nil => exact absurd rfl h
  | cons c word => simp [lowerChar_ne_nil]

lemma flatten_map_lowered (words : List (List Char)) :
    (words.map lowered).flatten = lowered words.flatten := by
  induction words with
  | nil => rfl
  | cons word words ih => simp [lowered, ih]

/-! ### The words that are found -/

/-- Without a word begun, it does not matter what came before. -/
lemma wordsFrom_nil_cons (previous : Option Char) {c : Char} (cs : List Char)
    (hc : Text.isAlphanumeric c) :
    wordsFrom previous [] (c :: cs) = wordsFrom (some c) (Text.lowerChar c) cs := by
  simp [wordsFrom, finished, hc]

/-- A word that was begun is finished where nothing goes on with it. -/
lemma wordsFrom_of_not_goesOn {c : Char} {cs word : List Char} (hword : word ≠ [])
    (h : ∀ d ds, cs = d :: ds → ¬ GoesOn c d ds.head?) :
    wordsFrom (some c) word cs = word :: wordsFrom none [] cs := by
  cases cs with
  | nil => simp [wordsFrom, finished, hword]
  | cons d ds =>
    by_cases hd : Text.isAlphanumeric d
    · have hhump : isHump (some c) d ds.head? := by simpa [GoesOn, hd] using h d ds rfl
      rw [wordsFrom_nil_cons none ds hd]
      simp [wordsFrom, finished, hd, hhump, hword]
    · simp [wordsFrom, finished, hd, hword]

/-- The words found are those of the text in lower case; and if the text begins with a letter or
number, what was begun becomes part of the first of them. -/
lemma wordsFrom_of_cut {cs : List Char} {words : List (List Char)} (h : Cut cs words) :
    (∀ previous, wordsFrom previous [] cs = words.map lowered) ∧
      ∀ c rest word more begun, cs = c :: rest → Text.isAlphanumeric c → words = word :: more →
        wordsFrom (some c) (begun ++ Text.lowerChar c) rest
          = (begun ++ lowered word) :: more.map lowered := by
  -- the first part follows from the second wherever the text begins with a letter or number
  have hfirst : ∀ {c : Char} {rest word : List Char} {more : List (List Char)},
      Text.isAlphanumeric c → (∀ begun, wordsFrom (some c) (begun ++ Text.lowerChar c) rest
        = (begun ++ lowered word) :: more.map lowered) →
      ∀ previous, wordsFrom previous [] (c :: rest) = (word :: more).map lowered := by
    intro c rest word more hc hbegun previous
    rw [wordsFrom_nil_cons previous rest hc]
    exact hbegun []
  induction h with
  | nil => exact ⟨fun _ => rfl, by simp⟩
  | gap hc _ ih =>
    refine ⟨fun previous => ?_, ?_⟩
    · simpa [wordsFrom, finished, hc] using ih.1 _
    · rintro _ _ _ _ _ ⟨rfl, rfl⟩ hc'
      exact absurd hc' hc
  | @last c cs words hc hnext _ ih =>
    have hbegun : ∀ begun, wordsFrom (some c) (begun ++ Text.lowerChar c) cs
        = (begun ++ lowered [c]) :: words.map lowered := by
      intro begun
      rw [wordsFrom_of_not_goesOn (by simp [lowerChar_ne_nil]) hnext, ih.1]
      simp [lowered]
    refine ⟨hfirst hc hbegun, ?_⟩
    rintro _ _ _ _ begun ⟨rfl, rfl⟩ - ⟨rfl, rfl⟩
    exact hbegun begun
  | @inner c d cs word words hc hnext _ ih =>
    have hbegun : ∀ begun, wordsFrom (some c) (begun ++ Text.lowerChar c) (d :: cs)
        = (begun ++ lowered (c :: word)) :: words.map lowered := by
      intro begun
      have hrest := ih.2 d cs word words (begun ++ Text.lowerChar c) rfl hnext.1 rfl
      simpa [wordsFrom, hnext.1, hnext.2, List.append_assoc] using hrest
    refine ⟨hfirst hc hbegun, ?_⟩
    rintro _ _ _ _ begun ⟨rfl, rfl⟩ - ⟨rfl, rfl⟩
    exact hbegun begun

/-- Cutting a text into words loses nothing: no word is empty, and put together the words are the
folded text, the letters and numbers of the text in lower case and in order. They are the words of
the text as it is written, which end before punctuation and before humps alone. -/
theorem tokenize_loses_no_letter (s : String) :
    (∀ word ∈ tokenize s, word ≠ "") ∧ String.join (tokenize s) = foldKey s ∧
      ∃ words, Cut s.toList words ∧
        tokenize s = words.map fun word => String.ofList (lowered word) := by
  obtain ⟨words, hcut⟩ := Cut.exists_words s.toList
  have htokens : tokenize s = words.map fun word => String.ofList (lowered word) := by
    rw [tokenize, (wordsFrom_of_cut hcut).1 none, List.map_map]
    rfl
  refine ⟨fun word hword => ?_, ?_, words, hcut, htokens⟩
  · rw [htokens] at hword
    obtain ⟨word, hmem, rfl⟩ := List.mem_map.mp hword
    simpa [← String.toList_inj] using lowered_ne_nil (hcut.ne_nil word hmem)
  · have hflat : (words.map lowered).flatten
        = (s.toList.filter Text.isAlphanumeric).flatMap Text.lowerChar := by
      rw [flatten_map_lowered, hcut.flatten_eq, lowered]
    rw [htokens, foldKey, ← hflat, ← String.toList_inj, String.toList_ofList, String.toList_join,
      List.flatMap_map]
    simp [List.flatMap_def]

example : tokenize "XMLToJSON-2İd" = ["xml", "to", "json", "2", "i\u0307d"] := by decide

end IntegrationFlow.Classification
