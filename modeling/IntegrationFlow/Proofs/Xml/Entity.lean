import Mathlib
import IntegrationFlow.Proofs.Text
import IntegrationFlow.Xml.Attribute

/-!
# Written texts are read back

A text that is written in markup holds no bracket and no quote, it begins and ends in white space
exactly where the text itself does, and resolving its references gives the text again.
-/

namespace IntegrationFlow.Xml.Entity

/-! ### Characters -/

/-- The characters that are written by a name. -/
def hasName (c : Char) : Bool := c == '<' || c == '>' || c == '&' || c == '\'' || c == '"'

lemma escapeChar_of_not_hasName {c : Char} (h : hasName c = false) : escapeChar c = [c] := by
  simp only [hasName, Bool.or_eq_false_iff, beq_eq_false_iff_ne, ne_eq] at h
  unfold escapeChar
  split <;> simp_all

/-- What is proved of the five characters that have names and of all others holds of every
character. -/
lemma hasName_cases {P : Char → Prop} (hlt : P '<') (hgt : P '>') (hamp : P '&') (hapos : P '\'')
    (hquot : P '"') (hplain : ∀ c, hasName c = false → P c) (c : Char) : P c := by
  cases h : hasName c with
  | false => exact hplain c h
  | true =>
    simp only [hasName, Bool.or_eq_true, beq_iff_eq] at h
    rcases h with (((rfl | rfl) | rfl) | rfl) | rfl <;> assumption

/-- No character is written with a bracket or a quote. -/
lemma notMem_escapeChar {x : Char} (hx : hasName x) (hamp : x ≠ '&') (c : Char) :
    x ∉ escapeChar c := by
  have hspecial : x = '<' ∨ x = '>' ∨ x = '\'' ∨ x = '"' := by
    simp only [hasName, Bool.or_eq_true, beq_iff_eq] at hx
    tauto
  induction c using hasName_cases with
  | hplain c hc =>
    rw [escapeChar_of_not_hasName hc, List.mem_singleton]
    rintro rfl
    exact absurd (hc.symm.trans hx) (by decide)
  | _ => rcases hspecial with rfl | rfl | rfl | rfl <;> decide

lemma notMem_escape {x : Char} (hx : hasName x) (hamp : x ≠ '&') (s : String) :
    x ∉ (escape s).toList := by
  rw [escape, String.toList_ofList, List.mem_flatMap]
  rintro ⟨c, -, hc⟩
  exact notMem_escapeChar hx hamp c hc

/-! ### White space at the ends -/

/-- The first and the last character of what is written for a character are white space exactly if
the character itself is. -/
lemma dropWhile_escapeChar_append (c : Char) (rest : List Char) :
    (escapeChar c ++ rest).dropWhile isMarkupSpace
      = if isMarkupSpace c then rest.dropWhile isMarkupSpace else escapeChar c ++ rest := by
  induction c using hasName_cases with
  | hplain c hc => rw [escapeChar_of_not_hasName hc]; simp [List.dropWhile_cons]
  | _ => rfl

lemma dropWhile_reverse_escapeChar_append (c : Char) (rest : List Char) :
    ((escapeChar c).reverse ++ rest).dropWhile isMarkupSpace
      = if isMarkupSpace c then rest.dropWhile isMarkupSpace
        else (escapeChar c).reverse ++ rest := by
  induction c using hasName_cases with
  | hplain c hc => rw [escapeChar_of_not_hasName hc]; simp [List.dropWhile_cons]
  | _ => rfl

lemma dropWhile_flatMap_escapeChar (cs : List Char) :
    (cs.flatMap escapeChar).dropWhile isMarkupSpace
      = (cs.dropWhile isMarkupSpace).flatMap escapeChar := by
  induction cs with
  | nil => rfl
  | cons c cs ih =>
    rw [List.flatMap_cons, dropWhile_escapeChar_append, ih, List.dropWhile_cons]
    split <;> rfl

lemma rdropWhile_flatMap_escapeChar (cs : List Char) :
    (cs.flatMap escapeChar).rdropWhile isMarkupSpace
      = (cs.rdropWhile isMarkupSpace).flatMap escapeChar := by
  induction cs using List.reverseRecOn with
  | nil => rfl
  | append_singleton cs c ih =>
    have hlast : (cs ++ [c]).flatMap escapeChar = cs.flatMap escapeChar ++ escapeChar c := by simp
    rw [List.rdropWhile, hlast, List.reverse_append, dropWhile_reverse_escapeChar_append,
      List.rdropWhile_concat]
    split
    · exact ih
    · simp

/-- A text can be stripped of white space before or after it is written. -/
lemma trimBy_flatMap_escapeChar (cs : List Char) :
    Text.trimBy isMarkupSpace (cs.flatMap escapeChar)
      = (Text.trimBy isMarkupSpace cs).flatMap escapeChar := by
  rw [Text.trimBy_eq_rdropWhile, Text.trimBy_eq_rdropWhile, dropWhile_flatMap_escapeChar,
    rdropWhile_flatMap_escapeChar]

/-! ### Reading what was written -/

lemma unescapeFrom_escapeChar_append (total : Nat) (c : Char) (offset : Nat) (rest : List Char) :
    ∃ offset', unescapeFrom total offset none (escapeChar c ++ rest)
      = (unescapeFrom total offset' none rest).map (c :: ·) := by
  induction c using hasName_cases with
  | hplain c hc =>
    have hamp : c ≠ '&' := by
      rintro rfl
      exact absurd hc (by decide)
    refine ⟨offset + c.utf8Size, ?_⟩
    rw [escapeChar_of_not_hasName hc]
    simp [unescapeFrom, hamp]
  | _ => exact ⟨_, by simp [escapeChar, unescapeFrom, resolve]; rfl⟩

lemma unescapeFrom_flatMap_escapeChar (total offset : Nat) (cs : List Char) :
    unescapeFrom total offset none (cs.flatMap escapeChar) = .ok cs := by
  induction cs generalizing offset with
  | nil => rfl
  | cons c cs ih =>
    obtain ⟨offset', h⟩ := unescapeFrom_escapeChar_append total c offset (cs.flatMap escapeChar)
    rw [List.flatMap_cons, h, ih]
    rfl

/-- Resolving the references of a written text gives the text. -/
theorem unescape_flatMap_escapeChar (cs : List Char) :
    unescape (cs.flatMap escapeChar) = .ok (String.ofList cs) := by
  rw [unescape, unescapeFrom_flatMap_escapeChar]
  rfl

end IntegrationFlow.Xml.Entity
