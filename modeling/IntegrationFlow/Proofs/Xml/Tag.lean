import Mathlib
import IntegrationFlow.Proofs.OrderedMap
import IntegrationFlow.Proofs.Xml.Entity
import IntegrationFlow.Xml.Document
import IntegrationFlow.Xml.Printer

/-!
# Written tags are read back

The text of a tag is a name and attributes, whose values are quoted. No bracket or quote of a value
ends the tag, and the name and the attributes are found in it again.
-/

namespace IntegrationFlow.Xml

/-! ### Names -/

/-- The characters that stand in names. -/
def isNameChar (c : Char) : Bool :=
  c.isAlphanum || c == '_' || c == '-' || c == '.' || c == ':'

/-- A name that can be written in a tag. -/
structure IsName (s : String) : Prop where
  ne_empty : s ≠ ""
  all_isNameChar : s.toList.all isNameChar

instance (s : String) : Decidable (IsName s) :=
  decidable_of_iff (s ≠ "" ∧ s.toList.all isNameChar)
    ⟨fun h => ⟨h.1, h.2⟩, fun h => ⟨h.ne_empty, h.all_isNameChar⟩⟩

lemma ne_of_isNameChar {c x : Char} (h : isNameChar c) (hx : isNameChar x = false) : c ≠ x := by
  rintro rfl
  exact absurd (hx.symm.trans h) (by decide)

lemma isMarkupSpace_of_isNameChar {c : Char} (h : isNameChar c) : isMarkupSpace c = false := by
  simp only [isMarkupSpace, Bool.or_eq_false_iff, beq_eq_false_iff_ne]
  exact ⟨⟨⟨ne_of_isNameChar h (by decide), ne_of_isNameChar h (by decide)⟩,
    ne_of_isNameChar h (by decide)⟩, ne_of_isNameChar h (by decide)⟩

namespace IsName

variable {s : String}

lemma chars (h : IsName s) : ∀ c ∈ s.toList, isNameChar c := List.all_eq_true.mp h.all_isNameChar

lemma exists_cons (h : IsName s) : ∃ c cs, s.toList = c :: cs ∧ isNameChar c := by
  cases hs : s.toList with
  | nil => exact absurd (String.toList_eq_nil_iff.mp hs) h.ne_empty
  | cons c cs => exact ⟨c, cs, rfl, h.chars c (by simp [hs])⟩

lemma isMarkupSpace_eq_false (h : IsName s) : ∀ c ∈ s.toList, isMarkupSpace c = false :=
  fun c hc => isMarkupSpace_of_isNameChar (h.chars c hc)

end IsName

/-! ### Attributes -/

@[simp] lemma printAttributes_nil : printAttributes [] = "" := rfl

@[simp] lemma toList_printAttributes_cons (key value : String)
    (attributes : List (String × String)) :
    (printAttributes ((key, value) :: attributes)).toList
      = ' ' :: (key.toList ++ '=' :: '"' :: ((Entity.escape value).toList ++
          '"' :: (printAttributes attributes).toList)) := by
  simp [printAttributes, String.join_cons]

/-- An attribute that was written is the next one to be read. -/
lemma Attribute.step?_printAttributes (total : Nat) {seen : List (List Char × Nat)}
    {key : String} (hkey : IsName key) (hseen : seen.lookup key.toList = none) (value : String)
    (attributes : List (String × String)) :
    ∃ position, Attribute.step? total seen (printAttributes ((key, value) :: attributes)).toList
      = some ⟨.ok ⟨key.toList, (Entity.escape value).toList⟩, (key.toList, position) :: seen,
          (printAttributes attributes).toList⟩ := by
  obtain ⟨k, ks, hks, hk⟩ := hkey.exists_cons
  have hinner : ∀ c ∈ ks, (c != '=' && !isMarkupSpace c) = true := by
    intro c hc
    have hname : isNameChar c := hkey.chars c (by simp [hks, hc])
    simp [isMarkupSpace_of_isNameChar hname, ne_of_isNameChar hname (x := '=') (by decide)]
  have hvalue : ∀ c ∈ (Entity.escape value).toList, (c != '"') = true := by
    intro c hc
    simp only [bne_iff_ne]
    rintro rfl
    exact Entity.notMem_escape (by decide) (by decide) value hc
  have hspace : isMarkupSpace ' ' = true := by decide
  have hequals : isMarkupSpace '=' = false := by decide
  have hquote : isMarkupSpace '"' = false := by decide
  refine ⟨total - Text.byteSize (key.toList ++ '=' :: '"' :: ((Entity.escape value).toList ++
    '"' :: (printAttributes attributes).toList)), ?_⟩
  rw [hks] at hseen
  simp only [toList_printAttributes_cons, hks, List.cons_append, Attribute.step?,
    List.dropWhile_cons, hspace, if_true, isMarkupSpace_of_isNameChar hk, Bool.false_eq_true,
    if_false, List.dropWhile_append_of_pos hinner, List.takeWhile_append_of_pos hinner,
    List.takeWhile_cons, bne_self_eq_false, Bool.false_and, hequals, List.append_nil,
    Attribute.readValue, hseen, hquote, true_or, List.dropWhile_append_of_pos hvalue,
    List.takeWhile_append_of_pos hvalue]

/-- Attributes with keys of their own are read as they were written. -/
lemma Attribute.readAll_printAttributes (total : Nat) (seen : List (List Char × Nat))
    (attributes : List (String × String)) (hkeys : ∀ key ∈ OrderedMap.keys attributes, IsName key)
    (hnodup : (OrderedMap.keys attributes).Nodup)
    (hseen : ∀ key ∈ OrderedMap.keys attributes, seen.lookup key.toList = none) :
    Attribute.readAll total seen (printAttributes attributes).toList
      = attributes.map fun a => .ok ⟨a.1.toList, (Entity.escape a.2).toList⟩ := by
  induction attributes generalizing seen with
  | nil =>
    rw [Attribute.readAll]
    rfl
  | cons a attributes ih =>
    obtain ⟨key, value⟩ := a
    simp only [OrderedMap.keys_cons, List.mem_cons, forall_eq_or_imp] at hkeys hseen
    rw [OrderedMap.keys_cons, List.nodup_cons] at hnodup
    obtain ⟨position, hstep⟩ :=
      step?_printAttributes total hkeys.1 hseen.1 value attributes
    rw [Attribute.readAll, hstep]
    refine congrArg₂ List.cons rfl (ih _ hkeys.2 hnodup.2 fun k hk => ?_)
    have hne : k.toList ≠ key.toList := by
      intro heq
      exact hnodup.1 (String.toList_inj.mp heq ▸ hk)
    rw [List.lookup_cons, beq_false_of_ne hne]
    exact hseen.2 k hk

/-! ### The text of a tag -/

/-- What stands between the brackets of a start tag. -/
def tagText (name : String) (attributes : List (String × String)) : List Char :=
  name.toList ++ (printAttributes attributes).toList

/-- A blank separates the name from the attributes. -/
lemma printAttributes_eq_nil_or_cons (attributes : List (String × String)) :
    (printAttributes attributes).toList = [] ∨
      ∃ cs, (printAttributes attributes).toList = ' ' :: cs := by
  cases attributes with
  | nil => exact Or.inl rfl
  | cons a attributes => exact Or.inr ⟨_, toList_printAttributes_cons a.1 a.2 attributes⟩

lemma takeWhile_tagText {name : String} (hname : IsName name)
    (attributes : List (String × String)) :
    (tagText name attributes).takeWhile (fun c => !isMarkupSpace c) = name.toList ∧
      (tagText name attributes).dropWhile (fun c => !isMarkupSpace c)
        = (printAttributes attributes).toList := by
  have hall : ∀ c ∈ name.toList, (!isMarkupSpace c) = true := by
    intro c hc
    simp [hname.isMarkupSpace_eq_false c hc]
  rw [tagText, List.takeWhile_append_of_pos hall, List.dropWhile_append_of_pos hall]
  rcases printAttributes_eq_nil_or_cons attributes with h | ⟨cs, h⟩
  · simp [h]
  · simp [h, isMarkupSpace]

lemma tagName_tagText {name : String} (hname : IsName name)
    (attributes : List (String × String)) : tagName (tagText name attributes) = name := by
  rw [tagName, (takeWhile_tagText hname attributes).1, String.ofList_toList]

/-- Every attribute of a written tag is read. -/
lemma tagAttributes_tagText {name : String} {attributes : List (String × String)}
    (hname : IsName name) (hkeys : ∀ key ∈ OrderedMap.keys attributes, IsName key)
    (hnodup : (OrderedMap.keys attributes).Nodup) :
    tagAttributes (tagText name attributes) = attributes.map .ok := by
  rw [tagAttributes, (takeWhile_tagText hname attributes).2,
    Attribute.readAll_printAttributes _ [] attributes hkeys hnodup (by simp), List.map_map]
  refine List.map_congr_left fun a _ => ?_
  simp [Entity.escape, Entity.unescape_flatMap_escapeChar]

/-! ### The ends of tags -/

/-- No tag ends in these characters, and no quote is left open. -/
def IsInner (cs : List Char) : Prop :=
  ∀ rest, splitAtTagEnd none (cs ++ rest)
    = (splitAtTagEnd none rest).map fun (before, rest) => (cs ++ before, rest)

lemma IsInner.append {cs ds : List Char} (hcs : IsInner cs) (hds : IsInner ds) :
    IsInner (cs ++ ds) := by
  intro rest
  rw [List.append_assoc, hcs, hds, Option.map_map]
  simp [Function.comp_def]

lemma isInner_nil : IsInner [] := by
  intro rest
  simp

lemma isInner_singleton {c : Char} (hend : c ≠ '>') (hquote : c ≠ '"') (hquote' : c ≠ '\'') :
    IsInner [c] := by
  intro rest
  simp [splitAtTagEnd, hend, hquote, hquote']

lemma isInner_of_forall {cs : List Char} (h : ∀ c ∈ cs, IsInner [c]) : IsInner cs := by
  induction cs with
  | nil => exact isInner_nil
  | cons c cs ih =>
    exact (h c (by simp)).append (ih fun x hx => h x (List.mem_cons_of_mem _ hx))

lemma splitAtTagEnd_quoted {cs : List Char} (h : '"' ∉ cs) (rest : List Char) :
    splitAtTagEnd (some '"') (cs ++ '"' :: rest)
      = (splitAtTagEnd none rest).map fun (before, rest) => (cs ++ '"' :: before, rest) := by
  induction cs with
  | nil => simp [splitAtTagEnd]
  | cons c cs ih =>
    simp only [List.mem_cons, not_or] at h
    rw [List.cons_append, splitAtTagEnd, if_neg (Ne.symm h.1), ih h.2, Option.map_map]
    simp [Function.comp_def]

lemma isInner_quoted {cs : List Char} (h : '"' ∉ cs) : IsInner ('"' :: (cs ++ ['"'])) := by
  intro rest
  simp only [List.cons_append, List.append_assoc, List.nil_append]
  rw [splitAtTagEnd, if_neg (by decide), if_pos (Or.inl rfl), splitAtTagEnd_quoted h,
    Option.map_map]
  simp [Function.comp_def]

lemma IsName.isInner {s : String} (h : IsName s) : IsInner s.toList := by
  refine isInner_of_forall fun c hc => ?_
  have hname : isNameChar c := h.chars c hc
  exact isInner_singleton (ne_of_isNameChar hname (by decide)) (ne_of_isNameChar hname (by decide))
    (ne_of_isNameChar hname (by decide))

lemma isInner_printAttributes {attributes : List (String × String)}
    (hkeys : ∀ key ∈ OrderedMap.keys attributes, IsName key) :
    IsInner (printAttributes attributes).toList := by
  induction attributes with
  | nil => exact isInner_nil
  | cons a attributes ih =>
    simp only [OrderedMap.keys_cons, List.mem_cons, forall_eq_or_imp] at hkeys
    have hsplit : (printAttributes (a :: attributes)).toList
        = [' '] ++ a.1.toList ++ ['='] ++ ('"' :: ((Entity.escape a.2).toList ++ ['"'])) ++
          (printAttributes attributes).toList := by
      simp [toList_printAttributes_cons a.1 a.2 attributes]
    rw [hsplit]
    have hblank : IsInner [' '] := isInner_singleton (by decide) (by decide) (by decide)
    have hequals : IsInner ['='] := isInner_singleton (by decide) (by decide) (by decide)
    have hvalue := isInner_quoted (Entity.notMem_escape (by decide) (by decide) a.2)
    exact (((hblank.append hkeys.1.isInner).append hequals).append hvalue).append (ih hkeys.2)

lemma isInner_tagText {name : String} {attributes : List (String × String)} (hname : IsName name)
    (hkeys : ∀ key ∈ OrderedMap.keys attributes, IsName key) : IsInner (tagText name attributes) :=
  hname.isInner.append (isInner_printAttributes hkeys)

/-! ### Tags as tokens -/

lemma IsInner.splitAtTagEnd_eq {cs : List Char} (h : IsInner cs) (rest : List Char) :
    splitAtTagEnd none (cs ++ '>' :: rest) = some (cs, rest) := by
  rw [h]
  simp [splitAtTagEnd]

/-- What follows a bracket is a tag if it begins like a name or with a slash. -/
lemma lexMarkup_eq_lexTag {c : Char} (hbang : c ≠ '!') (hquery : c ≠ '?') (cs : List Char) :
    lexMarkup (c :: cs) = lexTag (c :: cs) := by
  unfold lexMarkup
  split <;> simp_all

lemma getLast?_tagText {name : String} (hname : IsName name)
    (attributes : List (String × String)) : (tagText name attributes).getLast? ≠ some '/' := by
  have hattributes : (printAttributes attributes).toList.getLast? ≠ some '/' := by
    induction attributes with
    | nil => simp
    | cons a attributes ih =>
      rw [toList_printAttributes_cons a.1 a.2 attributes]
      cases hlast : (printAttributes attributes).toList.getLast? with
      | none =>
        rw [List.getLast?_eq_none_iff] at hlast
        simp [hlast, List.getLast?_cons, List.getLast?_append]
      | some c =>
        simp [hlast, List.getLast?_cons, List.getLast?_append] at ih ⊢
        exact ih
  rw [tagText, List.getLast?_append]
  cases hlast : (printAttributes attributes).toList.getLast? with
  | some c => simpa [hlast] using hattributes
  | none =>
    intro h
    have hmem : '/' ∈ name.toList := List.mem_of_getLast? (by simpa using h)
    exact absurd (hname.chars _ hmem) (by decide)

section Tags

variable {name : String} {attributes : List (String × String)} (hname : IsName name)
  (hkeys : ∀ key ∈ OrderedMap.keys attributes, IsName key) (rest : List Char)

include hname hkeys in
/-- A start tag is read as it was written. -/
lemma lexMarkup_opening : ∃ width, lexMarkup (tagText name attributes ++ '>' :: rest)
    = ⟨.opening (tagText name attributes), width, rest⟩ := by
  have hinner := isInner_tagText hname hkeys
  have hlast := getLast?_tagText hname attributes
  obtain ⟨c, cs, hcs, hc⟩ := hname.exists_cons
  have htext : tagText name attributes = c :: (cs ++ (printAttributes attributes).toList) := by
    simp [tagText, hcs]
  have hslash : c ≠ '/' := ne_of_isNameChar hc (by decide)
  refine ⟨2 + Text.byteSize (tagText name attributes), ?_⟩
  rw [htext, List.cons_append, lexMarkup_eq_lexTag (ne_of_isNameChar hc (by decide))
    (ne_of_isNameChar hc (by decide)), ← List.cons_append, ← htext, lexTag,
    hinner.splitAtTagEnd_eq]
  simp only [if_neg hlast]
  split
  · rename_i h
    rw [htext] at h
    exact absurd (List.cons.inj h).1 hslash
  · rfl

include hname hkeys in
/-- An empty-element tag is read as it was written. -/
lemma lexMarkup_empty : ∃ width, lexMarkup (tagText name attributes ++ '/' :: '>' :: rest)
    = ⟨.empty (tagText name attributes), width, rest⟩ := by
  have hinner : IsInner (tagText name attributes ++ ['/']) :=
    (isInner_tagText hname hkeys).append (isInner_singleton (by decide) (by decide) (by decide))
  obtain ⟨c, cs, hcs, hc⟩ := hname.exists_cons
  have htext : tagText name attributes = c :: (cs ++ (printAttributes attributes).toList) := by
    simp [tagText, hcs]
  have hslash : c ≠ '/' := ne_of_isNameChar hc (by decide)
  have hsplit : tagText name attributes ++ '/' :: '>' :: rest
      = (tagText name attributes ++ ['/']) ++ '>' :: rest := by simp
  refine ⟨2 + Text.byteSize (tagText name attributes ++ ['/']), ?_⟩
  rw [htext, List.cons_append, lexMarkup_eq_lexTag (ne_of_isNameChar hc (by decide))
    (ne_of_isNameChar hc (by decide)), ← List.cons_append, ← htext, hsplit, lexTag,
    hinner.splitAtTagEnd_eq]
  simp only [List.getLast?_concat, if_true, List.dropLast_concat]
  split
  · rename_i h
    rw [htext] at h
    exact absurd (List.cons.inj h).1 hslash
  · rfl

include hname in
/-- An end tag is read as it was written. -/
lemma lexMarkup_closing : ∃ width, lexMarkup ('/' :: (name.toList ++ '>' :: rest))
    = ⟨.closing name.toList, width, rest⟩ := by
  have hinner : IsInner ('/' :: name.toList) :=
    (isInner_singleton (c := '/') (by decide) (by decide) (by decide)).append hname.isInner
  obtain ⟨c, cs, hcs, hc⟩ := hname.exists_cons
  have hname' : closingName name.toList = name.toList := by
    have hhead : name.toList.all isMarkupSpace = false := by
      simp [hcs, isMarkupSpace_of_isNameChar hc]
    rw [closingName, hhead, if_neg (by decide)]
    exact List.rdropWhile_eq_self_iff.mpr fun hne =>
      by simp [hname.isMarkupSpace_eq_false _ (List.getLast_mem hne)]
  refine ⟨2 + Text.byteSize ('/' :: name.toList), ?_⟩
  rw [lexMarkup_eq_lexTag (by decide) (by decide), ← List.cons_append, lexTag,
    hinner.splitAtTagEnd_eq]
  simp only [hname']

end Tags

end IntegrationFlow.Xml
