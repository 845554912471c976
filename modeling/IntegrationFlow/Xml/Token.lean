import IntegrationFlow.Xml.Attribute

/-!
# Markup tokens

A text is cut into tags, texts, character data and asides, from left to right, until it ends or
cannot be cut any further. White space before a token belongs to it and is passed over; each token
knows the bytes it spans, that white space included.
-/

namespace IntegrationFlow.Xml

/-- Why no further token can be cut. -/
inductive SyntaxFault where
  | unknownMarkup
  | unclosedInstruction
  | unclosedComment
  | unclosedDoctype
  | unclosedCharacterData
  | unclosedTag
  deriving DecidableEq, Repr

/-- The wording of a fault. -/
def SyntaxFault.message : SyntaxFault → String
  | .unknownMarkup => "unknown or missed symbol in markup"
  | .unclosedInstruction =>
    "processing instruction or xml declaration not closed: `?>` not found before end of input"
  | .unclosedComment => "comment not closed: `-->` not found before end of input"
  | .unclosedDoctype => "DOCTYPE not closed: `>` not found before end of input"
  | .unclosedCharacterData => "CDATA not closed: `]]>` not found before end of input"
  | .unclosedTag => "tag not closed: `>` not found before end of input"

/-- A token. -/
inductive Token where
  /-- A start tag, with what is between its angle brackets. -/
  | opening (content : List Char)
  /-- An empty-element tag, with what is between its angle brackets but for the final slash. -/
  | empty (content : List Char)
  /-- An end tag. -/
  | closing (name : List Char)
  /-- A text, its references unresolved. -/
  | text (raw : List Char)
  /-- Character data, which holds no references. -/
  | characterData (content : List Char)
  /-- A comment, an instruction, a declaration or a document type. -/
  | aside
  /-- A document type declaration without a name. -/
  | namelessDoctype
  /-- Where reading stops. -/
  | broken (fault : SyntaxFault)
  deriving DecidableEq, Repr

/-! ### Ends of tokens -/

/-- Cuts at the first `mark`: what precedes and what follows it. -/
def splitAtMark (mark : List Char) : List Char → Option (List Char × List Char)
  | [] => none
  | c :: cs =>
    match Text.dropHead? mark (c :: cs) with
    | some rest => some ([], rest)
    | none => (splitAtMark mark cs).map fun (before, rest) => (c :: before, rest)

/-- Cuts at the first `>` that stands outside quotes. `quote` is the quote that is open. -/
def splitAtTagEnd : Option Char → List Char → Option (List Char × List Char)
  | _, [] => none
  | none, c :: cs =>
    if c = '>' then some ([], cs)
    else
      (splitAtTagEnd (if c = '"' ∨ c = '\'' then some c else none) cs).map
        fun (before, rest) => (c :: before, rest)
  | some quote, c :: cs =>
    (splitAtTagEnd (if c = quote then none else some quote) cs).map
      fun (before, rest) => (c :: before, rest)

/-- Cuts at the first `>` that has no `<` of its own. `depth` counts those still open. -/
def splitAtBalance : Nat → List Char → Option (List Char × List Char)
  | _, [] => none
  | depth, c :: cs =>
    if c = '>' ∧ depth = 0 then some ([], cs)
    else
      (splitAtBalance (if c = '<' then depth + 1 else if c = '>' then depth - 1 else depth) cs).map
        fun (before, rest) => (c :: before, rest)

/-! ### One token -/

/-- A token with the number of bytes it spans and what follows it. -/
structure Lexeme where
  token : Token
  width : Nat
  rest : List Char

/-- The name in an end tag: trailing white space does not count, unless there is nothing else. -/
def closingName (content : List Char) : List Char :=
  if content.all isMarkupSpace then content
  else (content.reverse.dropWhile isMarkupSpace).reverse

/-- What is left after an upper or lower case `part` at the beginning. -/
def dropHeadAnyCase? : (part cs : List Char) → Option (List Char)
  | [], cs => some cs
  | _ :: _, [] => none
  | p :: ps, c :: cs => if p.toUpper = c.toUpper then dropHeadAnyCase? ps cs else none

/-- The token after `<!`. -/
def lexBang (cs : List Char) : Lexeme :=
  match cs with
  | '[' :: _ =>
    match (Text.dropHead? "[CDATA[".toList cs).bind (splitAtMark "]]>".toList) with
    | some (content, rest) => ⟨.characterData content, 12 + Text.byteSize content, rest⟩
    | none => ⟨.broken .unclosedCharacterData, 0, []⟩
  | '-' :: _ =>
    match (Text.dropHead? "--".toList cs).bind (splitAtMark "-->".toList) with
    | some (content, rest) => ⟨.aside, 7 + Text.byteSize content, rest⟩
    | none => ⟨.broken .unclosedComment, 0, []⟩
  | c :: _ =>
    if c = 'D' ∨ c = 'd' then
      match (dropHeadAnyCase? "DOCTYPE".toList cs).bind (splitAtBalance 0) with
      | some (content, rest) =>
        ⟨if content.all isMarkupSpace then .namelessDoctype else .aside,
          10 + Text.byteSize content, rest⟩
      | none => ⟨.broken .unclosedDoctype, 0, []⟩
    else ⟨.broken .unknownMarkup, 0, []⟩
  | [] => ⟨.broken .unknownMarkup, 0, []⟩

/-- The token after `<?`. -/
def lexInstruction (cs : List Char) : Lexeme :=
  match cs with
  | '>' :: _ => ⟨.broken .unclosedInstruction, 0, []⟩
  | _ =>
    match splitAtMark "?>".toList cs with
    | some (content, rest) => ⟨.aside, 4 + Text.byteSize content, rest⟩
    | none => ⟨.broken .unclosedInstruction, 0, []⟩

/-- The token after `<` when it is a tag. -/
def lexTag (cs : List Char) : Lexeme :=
  match splitAtTagEnd none cs with
  | none => ⟨.broken .unclosedTag, 0, []⟩
  | some (content, rest) =>
    let token :=
      match content with
      | '/' :: name => .closing (closingName name)
      | _ =>
        if content.getLast? = some '/' then .empty content.dropLast else .opening content
    ⟨token, 2 + Text.byteSize content, rest⟩

/-- The token after `<`; its width counts the `<`. Where reading stops the width is zero. -/
def lexMarkup : List Char → Lexeme
  | '!' :: cs => lexBang cs
  | '?' :: cs => lexInstruction cs
  | cs => lexTag cs

/-- The next token, unless there is nothing but white space left. -/
def lex? (cs : List Char) : Option Lexeme :=
  let gap := Text.byteSize (cs.takeWhile isMarkupSpace)
  match cs.dropWhile isMarkupSpace with
  | [] => none
  | '<' :: cs =>
    let l := lexMarkup cs
    some { l with width := gap + l.width }
  | cs =>
    let raw := cs.takeWhile (· != '<')
    some ⟨.text (raw.reverse.dropWhile isMarkupSpace).reverse, gap + Text.byteSize raw,
      cs.dropWhile (· != '<')⟩

/-! ### What follows a token is shorter -/

theorem eq_of_splitAtMark {mark cs before rest : List Char}
    (h : splitAtMark mark cs = some (before, rest)) : cs = before ++ mark ++ rest := by
  induction cs generalizing before with
  | nil => simp [splitAtMark] at h
  | cons c cs ih =>
    rw [splitAtMark] at h
    split at h
    · rename_i r hr
      obtain ⟨rfl, rfl⟩ : [] = before ∧ r = rest := by simpa using h
      simpa using Text.dropHead?_eq_some.mp hr
    · obtain ⟨⟨b, r⟩, hbr, hb⟩ := Option.map_eq_some_iff.mp h
      obtain ⟨rfl, rfl⟩ : c :: b = before ∧ r = rest := by simpa using hb
      simp [ih hbr]

theorem eq_of_splitAtTagEnd {quote : Option Char} {cs before rest : List Char}
    (h : splitAtTagEnd quote cs = some (before, rest)) : cs = before ++ '>' :: rest := by
  induction cs generalizing before quote with
  | nil => cases quote <;> simp [splitAtTagEnd] at h
  | cons c cs ih =>
    have of_map {q : Option Char} (h : (splitAtTagEnd q cs).map
        (fun (before, rest) => (c :: before, rest)) = some (before, rest)) :
        c :: cs = before ++ '>' :: rest := by
      obtain ⟨⟨b, r⟩, hbr, hb⟩ := Option.map_eq_some_iff.mp h
      obtain ⟨rfl, rfl⟩ : c :: b = before ∧ r = rest := by simpa using hb
      simp [ih hbr]
    cases quote with
    | none =>
      rw [splitAtTagEnd] at h
      split at h
      · rename_i hc
        obtain ⟨rfl, rfl⟩ : [] = before ∧ cs = rest := by simpa using h
        simp [hc]
      · exact of_map h
    | some q =>
      rw [splitAtTagEnd] at h
      exact of_map h

theorem eq_of_splitAtBalance {depth : Nat} {cs before rest : List Char}
    (h : splitAtBalance depth cs = some (before, rest)) : cs = before ++ '>' :: rest := by
  induction cs generalizing before depth with
  | nil => simp [splitAtBalance] at h
  | cons c cs ih =>
    rw [splitAtBalance] at h
    split at h
    · rename_i hc
      obtain ⟨rfl, rfl⟩ : [] = before ∧ cs = rest := by simpa using h
      simp [hc.1]
    · obtain ⟨⟨b, r⟩, hbr, hb⟩ := Option.map_eq_some_iff.mp h
      obtain ⟨rfl, rfl⟩ : c :: b = before ∧ r = rest := by simpa using hb
      simp [ih hbr]

theorem length_of_dropHeadAnyCase? {part cs rest : List Char}
    (h : dropHeadAnyCase? part cs = some rest) : cs.length = part.length + rest.length := by
  induction part generalizing cs with
  | nil => simp_all [dropHeadAnyCase?]
  | cons p ps ih =>
    cases cs with
    | nil => simp [dropHeadAnyCase?] at h
    | cons c cs =>
      rw [dropHeadAnyCase?] at h
      split at h
      · have := ih h
        simp only [List.length_cons]
        omega
      · simp at h

theorem length_lexBang_rest_le (cs : List Char) : (lexBang cs).rest.length ≤ cs.length := by
  have of_mark {part mark content rest : List Char}
      (h : (Text.dropHead? part cs).bind (splitAtMark mark) = some (content, rest)) :
      rest.length ≤ cs.length := by
    obtain ⟨tail, ht, hs⟩ := Option.bind_eq_some_iff.mp h
    simp only [Text.dropHead?_eq_some.mp ht, eq_of_splitAtMark hs, List.length_append]
    omega
  unfold lexBang
  split
  · split
    · rename_i h
      exact of_mark h
    · simp
  · split
    · rename_i h
      exact of_mark h
    · simp
  · split
    · split
      · rename_i h
        obtain ⟨tail, ht, hs⟩ := Option.bind_eq_some_iff.mp h
        have h₁ := length_of_dropHeadAnyCase? ht
        have h₂ := congrArg List.length (eq_of_splitAtBalance hs)
        simp only [List.length_append, List.length_cons] at h₁ h₂ ⊢
        omega
      · simp
    · simp
  · simp

theorem length_lexMarkup_rest_le (cs : List Char) : (lexMarkup cs).rest.length ≤ cs.length := by
  unfold lexMarkup
  split
  · rename_i cs
    have := length_lexBang_rest_le cs
    simp only [List.length_cons]
    omega
  · rename_i cs
    unfold lexInstruction
    split
    · simp
    · split
      · rename_i h
        have := congrArg List.length (eq_of_splitAtMark h)
        simp only [List.length_append, List.length_cons] at this ⊢
        omega
      · simp
  · unfold lexTag
    split
    · simp
    · rename_i h
      have := congrArg List.length (eq_of_splitAtTagEnd h)
      simp only [List.length_append, List.length_cons] at this ⊢
      omega

theorem length_lex?_rest_lt {cs : List Char} {l : Lexeme} (h : lex? cs = some l) :
    l.rest.length < cs.length := by
  have h₁ := Attribute.length_dropWhile_le isMarkupSpace cs
  unfold lex? at h
  simp only at h
  split at h
  · simp at h
  · rename_i cs' hcs
    rw [hcs, List.length_cons] at h₁
    cases h
    have := length_lexMarkup_rest_le cs'
    simp only
    omega
  · rename_i hne hlt
    cases h
    cases hd : cs.dropWhile isMarkupSpace with
    | nil => exact absurd hd hne
    | cons c rest =>
      have hc : c ≠ '<' := fun hc => hlt rest (hc ▸ hd)
      rw [hd, List.length_cons] at h₁
      have h₂ := Attribute.length_dropWhile_le (· != '<') rest
      simp only [List.dropWhile_cons, bne_iff_ne, ne_eq, hc, not_false_eq_true, if_true]
      omega

/-! ### All tokens -/

/-- A token with the byte offsets at which it starts and stops. -/
structure Located where
  token : Token
  start : Nat
  stop : Nat

/-- The tokens of the characters from byte `offset` on. If reading stops, its place and cause are
the last token. -/
def scan (offset : Nat) (cs : List Char) : List Located :=
  match _ : lex? cs with
  | none => []
  | some l => ⟨l.token, offset, offset + l.width⟩ :: scan (offset + l.width) l.rest
termination_by cs.length
decreasing_by exact length_lex?_rest_lt ‹_›

end IntegrationFlow.Xml
