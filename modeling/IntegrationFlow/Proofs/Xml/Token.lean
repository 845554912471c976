import Mathlib
import IntegrationFlow.Proofs.Element
import IntegrationFlow.Proofs.Xml.Tag

/-!
# The tokens of a written tree

A written tree is cut into the tags of its elements and one text for each run of adjacent texts.
The line breaks and the blanks before tags leave no trace, since they never stand next to a text.
-/

namespace IntegrationFlow.Xml

/-! ### Tokens without their places -/

/-- The tokens of a text. -/
def tokens (cs : List Char) : List Token := (scan 0 cs).map Located.token

lemma map_token_scan (offset : Nat) (cs : List Char) :
    (scan offset cs).map Located.token = tokens cs := by
  -- the offset is only ever added to
  have hany : ∀ offset' : Nat,
      (scan offset cs).map Located.token = (scan offset' cs).map Located.token := by
    fun_induction scan offset cs with
    | case1 offset cs h =>
      intro offset'
      rw [scan]
      split
      · rfl
      · simp_all
    | case2 offset cs l h ih =>
      intro offset'
      rw [scan.eq_def offset']
      split
      · simp_all
      · rename_i l' h'
        obtain rfl : l = l' := Option.some.inj (h.symm.trans h')
        simp [ih (offset' + l.width)]
  exact hany 0

lemma tokens_of_lex?_eq_none {cs : List Char} (h : lex? cs = none) : tokens cs = [] := by
  rw [tokens, scan]
  split <;> simp_all

lemma tokens_of_lex?_eq_some {cs : List Char} {l : Lexeme} (h : lex? cs = some l) :
    tokens cs = l.token :: tokens l.rest := by
  rw [tokens, scan]
  split
  · simp_all
  · rename_i l' h'
    obtain rfl : l = l' := Option.some.inj (h.symm.trans h')
    rw [List.map_cons, map_token_scan]

/-- White space before markup leaves no trace. -/
lemma tokens_markup {gap : List Char} (hgap : ∀ c ∈ gap, isMarkupSpace c) (cs : List Char) :
    tokens (gap ++ '<' :: cs) = (lexMarkup cs).token :: tokens (lexMarkup cs).rest := by
  have hdrop : (gap ++ '<' :: cs).dropWhile isMarkupSpace = '<' :: cs := by
    rw [List.dropWhile_append_of_pos hgap]
    rfl
  refine tokens_of_lex?_eq_some
    (l := { lexMarkup cs with
      width := Text.byteSize ((gap ++ '<' :: cs).takeWhile isMarkupSpace) + (lexMarkup cs).width })
    ?_
  simp only [lex?, hdrop]

lemma tokens_bracket (cs : List Char) :
    tokens ('<' :: cs) = (lexMarkup cs).token :: tokens (lexMarkup cs).rest :=
  tokens_markup (List.forall_mem_nil _) cs

/-- The tokens of characters without markup: their text without the white space around it. -/
def textTokens (cs : List Char) : List Token :=
  if Text.trimBy isMarkupSpace cs = [] then [] else [.text (Text.trimBy isMarkupSpace cs)]

lemma textTokens_of_forall {cs : List Char} (h : ∀ c ∈ cs, isMarkupSpace c) :
    textTokens cs = [] := by
  have hdrop : cs.dropWhile isMarkupSpace = [] := List.dropWhile_eq_nil_iff.mpr h
  simp [textTokens, Text.trimBy, hdrop]

/-- Characters before markup are one text, unless they are all white space. -/
lemma tokens_text {cs : List Char} (hcs : '<' ∉ cs) (rest : List Char) :
    tokens (cs ++ '<' :: rest) = textTokens cs ++ tokens ('<' :: rest) := by
  cases hd : cs.dropWhile isMarkupSpace with
  | nil =>
    have hgap := List.dropWhile_eq_nil_iff.mp hd
    rw [tokens_markup hgap, textTokens_of_forall hgap, List.nil_append, tokens_bracket]
  | cons c ds =>
    have hsuffix : c :: ds <:+ cs := hd ▸ List.dropWhile_suffix _
    have hc : c ≠ '<' := by
      rintro rfl
      exact hcs (hsuffix.mem (by simp))
    have hne : ∀ x ∈ c :: ds, (x != '<') = true := by
      intro x hx
      simp only [bne_iff_ne]
      rintro rfl
      exact hcs (hsuffix.mem hx)
    have hspace : isMarkupSpace c = false := by
      have hhead := List.head_dropWhile_not isMarkupSpace (l := cs) (by simp [hd])
      simpa [hd] using hhead
    have hdrop : (cs ++ '<' :: rest).dropWhile isMarkupSpace = c :: ds ++ '<' :: rest := by
      rw [List.dropWhile_append, hd]
      rfl
    have htrim : Text.trimBy isMarkupSpace cs
        = ((c :: ds).reverse.dropWhile isMarkupSpace).reverse := by
      rw [Text.trimBy, hd]
    have hmem : c ∈ Text.trimBy isMarkupSpace cs :=
      Text.mem_trimBy_of_mem (hsuffix.mem (by simp)) (by simp [hspace])
    rw [textTokens, if_neg (List.ne_nil_of_mem hmem), htrim]
    have hlex : lex? (cs ++ '<' :: rest)
        = some ⟨.text ((c :: ds).reverse.dropWhile isMarkupSpace).reverse,
            Text.byteSize ((cs ++ '<' :: rest).takeWhile isMarkupSpace) + Text.byteSize (c :: ds),
            '<' :: rest⟩ := by
      simp only [lex?, hdrop]
      split
      · simp_all
      · rename_i heq
        exact absurd (List.cons.inj heq).1 hc
      · rw [List.takeWhile_append_of_pos hne, List.dropWhile_append_of_pos hne]
        simp
    exact tokens_of_lex?_eq_some hlex

section Tags

variable {name : String} {attributes : List (String × String)} (hname : IsName name)
  (hkeys : ∀ key ∈ OrderedMap.keys attributes, IsName key) (rest : List Char)

include hname hkeys in
lemma tokens_opening : tokens ('<' :: (tagText name attributes ++ '>' :: rest))
    = .opening (tagText name attributes) :: tokens rest := by
  obtain ⟨width, htag⟩ := lexMarkup_opening hname hkeys rest
  rw [tokens_bracket, htag]

include hname hkeys in
lemma tokens_empty : tokens ('<' :: (tagText name attributes ++ '/' :: '>' :: rest))
    = .empty (tagText name attributes) :: tokens rest := by
  obtain ⟨width, htag⟩ := lexMarkup_empty hname hkeys rest
  rw [tokens_bracket, htag]

include hname in
lemma tokens_closing : tokens ('<' :: '/' :: (name.toList ++ '>' :: rest))
    = .closing name.toList :: tokens rest := by
  obtain ⟨width, htag⟩ := lexMarkup_closing hname rest
  rw [tokens_bracket, htag]

end Tags

/-! ### Trees with names that can be written -/

/-- Every name and every key of a tree can be written, and no element has a key twice. -/
inductive Element.IsNamed : Element → Prop
  | mk {e : Element} (name : IsName e.name)
    (keys : ∀ key ∈ OrderedMap.keys e.attributes, IsName key)
    (nodup : (OrderedMap.keys e.attributes).Nodup) (children : ∀ x ∈ e.elements, x.IsNamed) :
    e.IsNamed

/-! ### Trees as tokens -/

mutual

/-- The tokens that an element is written as. -/
def elementTokens : Element → List Token
  | ⟨name, attributes, [], _⟩ => [.empty (tagText name attributes)]
  | ⟨name, attributes, c :: cs, _⟩ =>
    .opening (tagText name attributes) ::
      (contentTokens "" (c :: cs) ++ [.closing name.toList])

/-- The tokens that a content is written as, after the texts `run`. -/
def contentTokens (run : String) : List (Content Element) → List Token
  | [] => textTokens (Entity.escape run).toList
  | .text s :: cs => contentTokens (run ++ s) cs
  | .element e :: cs =>
    textTokens (Entity.escape run).toList ++ elementTokens e ++ contentTokens "" cs

end

lemma escape_append (s t : String) :
    Entity.escape (s ++ t) = Entity.escape s ++ Entity.escape t := by
  simp [Entity.escape]

lemma escape_empty : (Entity.escape "").toList = [] := by
  simp [Entity.escape]

lemma isMarkupSpace_indentation (depth : Nat) :
    ∀ c ∈ (indentation depth).toList, isMarkupSpace c := by
  intro c hc
  simp only [indentation, String.toList_append, String.toList_ofList, List.mem_append,
    List.mem_replicate] at hc
  rcases hc with hc | ⟨-, rfl⟩
  · obtain rfl : c = '\n' := by simpa using hc
    decide
  · decide

/-- What stands before a tag: the text in front of it, or a line break. -/
def lead (run : String) (afterText : Bool) (depth : Nat) : List Char :=
  (Entity.escape run).toList ++ (if afterText then "" else indentation depth).toList

/-- A line break only stands where there is no text. -/
lemma tokens_lead {run : String} {afterText : Bool} (h : afterText = false → run = "")
    (depth : Nat) (rest : List Char) :
    tokens (lead run afterText depth ++ '<' :: rest)
      = textTokens (Entity.escape run).toList ++ tokens ('<' :: rest) := by
  have hrun : '<' ∉ (Entity.escape run).toList := Entity.notMem_escape (by decide) (by decide) run
  cases afterText with
  | true =>
    rw [lead, if_pos rfl, String.toList_empty, List.append_nil]
    exact tokens_text hrun rest
  | false =>
    obtain rfl := h rfl
    have hspace := isMarkupSpace_indentation depth
    have hgap : '<' ∉ (indentation depth).toList := by
      intro hmem
      exact absurd (hspace _ hmem) (by decide)
    have hlead : lead "" false depth = (indentation depth).toList := by
      simp [lead, Entity.escape]
    rw [hlead, tokens_text hgap, textTokens_of_forall hspace, escape_empty]
    rfl

/-! ### Written trees -/

lemma toList_printElement_nil (depth : Nat) (afterText : Bool) (name : String)
    (attributes : List (String × String)) (span : Option Span) :
    (printElement depth afterText ⟨name, attributes, [], span⟩).toList
      = (if afterText then "" else indentation depth).toList ++
          '<' :: (tagText name attributes ++ ['/', '>']) := by
  simp [printElement, tagText]

lemma toList_printElement_cons (depth : Nat) (afterText : Bool) (name : String)
    (attributes : List (String × String)) (c : Content Element) (cs : List (Content Element))
    (span : Option Span) :
    (printElement depth afterText ⟨name, attributes, c :: cs, span⟩).toList
      = (if afterText then "" else indentation depth).toList ++
          '<' :: (tagText name attributes ++
            '>' :: ((printContent (depth + 1) false (c :: cs)).toList ++
              ((if endsInText (c :: cs) then "" else indentation depth).toList ++
                '<' :: '/' :: (name.toList ++ ['>'])))) := by
  simp [printElement, tagText]

/-- Whether a text precedes what follows a content, if `afterText` says so of the content. -/
def endsAfter (afterText : Bool) (cs : List (Content Element)) : Bool :=
  cs.isEmpty && afterText || endsInText cs

@[simp] lemma endsAfter_nil (afterText : Bool) : endsAfter afterText [] = afterText := by
  simp [endsAfter, endsInText]

lemma endsAfter_cons (afterText : Bool) (c : Content Element) (cs : List (Content Element)) :
    endsAfter afterText (c :: cs) = endsInText (c :: cs) := by
  simp [endsAfter]

@[simp] lemma endsAfter_text (afterText : Bool) (s : String) (cs : List (Content Element)) :
    endsAfter afterText (.text s :: cs) = endsAfter true cs := by
  cases cs <;> simp [endsAfter, endsInText]

@[simp] lemma endsAfter_element (afterText : Bool) (e : Element) (cs : List (Content Element)) :
    endsAfter afterText (.element e :: cs) = endsAfter false cs := by
  cases cs <;> simp [endsAfter, endsInText]

/-- An element is cut into its tokens wherever it stands. -/
def Splits (e : Element) : Prop :=
  ∀ (run : String) (afterText : Bool) (depth : Nat) (rest : List Char),
    (afterText = false → run = "") →
      tokens ((Entity.escape run).toList ++ ((printElement depth afterText e).toList ++ rest))
        = textTokens (Entity.escape run).toList ++ (elementTokens e ++ tokens rest)

/-- A content is cut into its tokens if its elements are. -/
lemma tokens_printContent {cs : List (Content Element)} (hcs : ∀ x ∈ elementsIn cs, Splits x)
    (run : String) (afterText : Bool) (hrun : afterText = false → run = "") (depth depth' : Nat)
    (rest : List Char) :
    tokens ((Entity.escape run).toList ++ ((printContent depth afterText cs).toList ++
        ((if endsAfter afterText cs then "" else indentation depth').toList ++ '<' :: rest)))
      = contentTokens run cs ++ tokens ('<' :: rest) := by
  induction cs generalizing run afterText with
  | nil =>
    have hlead := tokens_lead hrun depth' rest
    simpa [printContent, contentTokens, lead] using hlead
  | cons c cs ih =>
    cases c with
    | text s =>
      have htail := ih hcs (run ++ s) true (by simp)
      simpa [printContent, contentTokens, escape_append] using htail
    | element e =>
      simp only [elementsIn_element, List.mem_cons, forall_eq_or_imp] at hcs
      have htail := ih hcs.2 "" false (fun _ => rfl)
      rw [escape_empty, List.nil_append] at htail
      rw [printContent, String.toList_append, List.append_assoc, hcs.1 run afterText depth _ hrun,
        endsAfter_element, htail, contentTokens]
      simp only [List.append_assoc]

/-- A tree whose names can be written is cut into its tokens. -/
lemma Element.IsNamed.splits {e : Element} (h : e.IsNamed) : Splits e := by
  induction h with
  | @mk e hname hkeys hnodup hchildren ih =>
    obtain ⟨name, attributes, children, span⟩ := e
    intro run afterText depth rest hrun
    cases children with
    | nil =>
      have hlead := tokens_lead hrun depth (tagText name attributes ++ '/' :: '>' :: rest)
      rw [tokens_empty hname hkeys] at hlead
      simpa [toList_printElement_nil, lead, elementTokens] using hlead
    | cons c cs =>
      have hlead := tokens_lead hrun depth (tagText name attributes ++
        '>' :: ((printContent (depth + 1) false (c :: cs)).toList ++
          ((if endsInText (c :: cs) then "" else indentation depth).toList ++
            '<' :: '/' :: (name.toList ++ '>' :: rest))))
      have hcontent := tokens_printContent ih "" false (fun _ => rfl) (depth + 1) depth
        ('/' :: (name.toList ++ '>' :: rest))
      rw [tokens_closing hname, endsAfter_cons, escape_empty, List.nil_append] at hcontent
      rw [tokens_opening hname hkeys, hcontent] at hlead
      simpa [toList_printElement_cons, lead, elementTokens] using hlead

lemma toList_print (e : Element) :
    (print e).toList = "<?xml version=\"1.0\" encoding=\"UTF-8\"?>".toList ++
      ((printElement 0 false e).toList ++ "\n".toList) := by
  have hparts : ∀ s t u : String, (s ++ t ++ u).toList = s.toList ++ (t.toList ++ u.toList) := by
    simp
  exact hparts _ _ _

lemma tokens_declaration (rest : List Char) :
    tokens ("<?xml version=\"1.0\" encoding=\"UTF-8\"?>".toList ++ rest) = .aside :: tokens rest := by
  have hmarkup := tokens_bracket ("?xml version=\"1.0\" encoding=\"UTF-8\"?>".toList ++ rest)
  simpa [lexMarkup, lexInstruction, splitAtMark, Text.dropHead?] using hmarkup

lemma tokens_printElement {e : Element} (h : e.IsNamed) (rest : List Char) :
    tokens ((printElement 0 false e).toList ++ rest) = elementTokens e ++ tokens rest := by
  simpa [escape_empty, textTokens, Text.trimBy] using h.splits "" false 0 rest (fun _ => rfl)

/-- A written document is a declaration and a tree. -/
theorem tokens_print {e : Element} (h : e.IsNamed) :
    tokens (print e).toList = .aside :: elementTokens e := by
  have hend : tokens "\n".toList = [] := tokens_of_lex?_eq_none rfl
  calc tokens (print e).toList
      = tokens ("<?xml version=\"1.0\" encoding=\"UTF-8\"?>".toList ++
          ((printElement 0 false e).toList ++ "\n".toList)) := congrArg tokens (toList_print e)
    _ = .aside :: tokens ((printElement 0 false e).toList ++ "\n".toList) := tokens_declaration _
    _ = .aside :: (elementTokens e ++ tokens "\n".toList) :=
        congrArg _ (tokens_printElement h _)
    _ = .aside :: elementTokens e := by rw [hend, List.append_nil]

end IntegrationFlow.Xml
