import IntegrationFlow.Xml.Entity

/-!
# Attributes of a tag

The text of a tag after its name is a sequence of `key = "value"`. Whatever does not fit is
reported and skipped, and reading goes on behind it. Positions are byte offsets in the text of the
tag.
-/

namespace IntegrationFlow.Xml

/-- The characters that separate the parts of a tag. -/
def isMarkupSpace (c : Char) : Bool := c == ' ' || c == '\r' || c == '\n' || c == '\t'

namespace Attribute

/-- What is wrong with an attribute. -/
inductive Error where
  | noEquals (position : Nat)
  | duplicated (position previous : Nat)
  | noValue (position : Nat)
  | unquoted (position : Nat)
  | unclosed (position : Nat) (quote : Char)
  deriving DecidableEq, Repr

/-- The wording of an error. -/
def Error.message : Error → String
  | .noEquals position =>
    "position " ++ toString position ++
      ": attribute key must be directly followed by `=` or space"
  | .duplicated position previous =>
    "position " ++ toString position ++
      ": duplicated attribute, previous declaration at position " ++ toString previous
  | .noValue position =>
    "position " ++ toString position ++ ": `=` must be followed by an attribute value"
  | .unquoted position =>
    "position " ++ toString position ++ ": attribute value must be enclosed in `\"` or `'`"
  | .unclosed position quote =>
    "position " ++ toString position ++ ": missing closing quote `" ++ quote.toString ++
      "` in attribute value"

/-- An attribute as written: its key and its value with references unresolved. -/
structure Raw where
  key : List Char
  value : List Char
  deriving DecidableEq, Repr

/-- An attribute or a problem, with the keys known after it and what is still to be read. -/
structure Step where
  result : Except Error Raw
  seen : List (List Char × Nat)
  rest : List Char

/-- The value after the `=` of a key, which was found at `position`. -/
def readValue (total : Nat) (seen : List (List Char × Nat)) (key : List Char) (position : Nat)
    (cs : List Char) : Step :=
  match seen.lookup key with
  | some previous =>
    ⟨.error (.duplicated position previous), seen, cs.dropWhile fun c => !isMarkupSpace c⟩
  | none =>
    match cs.dropWhile isMarkupSpace with
    | [] => ⟨.error (.noValue total), (key, position) :: seen, []⟩
    | quote :: afterQuote =>
      if quote = '"' ∨ quote = '\'' then
        match afterQuote.dropWhile (· != quote) with
        | [] => ⟨.error (.unclosed total quote), (key, position) :: seen, []⟩
        | _ :: rest =>
          ⟨.ok ⟨key, afterQuote.takeWhile (· != quote)⟩, (key, position) :: seen, rest⟩
      else
        ⟨.error (.unquoted (total - Text.byteSize (quote :: afterQuote))),
          (key, position) :: seen, afterQuote.dropWhile fun c => !isMarkupSpace c⟩

/-- The next attribute in the characters that end a tag text of `total` bytes. `seen` holds the
keys so far with their positions. A key takes at least one character, whatever it is. -/
def step? (total : Nat) (seen : List (List Char × Nat)) (cs : List Char) : Option Step :=
  match cs.dropWhile isMarkupSpace with
  | [] => none
  | k :: afterFirst =>
    let key := k :: afterFirst.takeWhile fun c => c != '=' && !isMarkupSpace c
    match (afterFirst.dropWhile fun c => c != '=' && !isMarkupSpace c).dropWhile
        isMarkupSpace with
    | [] => some ⟨.error (.noEquals total), seen, []⟩
    | c :: rest =>
      if c = '=' then
        some (readValue total seen key (total - Text.byteSize (k :: afterFirst)) rest)
      else some ⟨.error (.noEquals (total - Text.byteSize (c :: rest))), seen, c :: rest⟩

/-- Dropping characters leaves no more than there were. -/
theorem length_dropWhile_le (p : Char → Bool) (cs : List Char) :
    (cs.dropWhile p).length ≤ cs.length :=
  (List.dropWhile_suffix p).length_le

theorem length_readValue_rest_le (total : Nat) (seen : List (List Char × Nat)) (key : List Char)
    (position : Nat) (cs : List Char) :
    (readValue total seen key position cs).rest.length ≤ cs.length := by
  have h₁ := length_dropWhile_le isMarkupSpace cs
  unfold readValue
  split
  · exact length_dropWhile_le _ _
  · split
    · simp
    · rename_i quote afterQuote h
      rw [h, List.length_cons] at h₁
      split
      · have h₂ := length_dropWhile_le (· != quote) afterQuote
        split
        · simp
        · rename_i h'
          rw [h', List.length_cons] at h₂
          simp only
          omega
      · have h₂ := length_dropWhile_le (fun c => !isMarkupSpace c) afterQuote
        simp only
        omega

theorem length_step?_rest_lt {total : Nat} {seen : List (List Char × Nat)} {cs : List Char}
    {s : Step} (h : step? total seen cs = some s) : s.rest.length < cs.length := by
  have h₁ := length_dropWhile_le isMarkupSpace cs
  unfold step? at h
  split at h
  · simp at h
  · rename_i k afterFirst hk
    rw [hk, List.length_cons] at h₁
    have h₂ := length_dropWhile_le isMarkupSpace
      (afterFirst.dropWhile fun c => c != '=' && !isMarkupSpace c)
    have h₃ := length_dropWhile_le (fun c => c != '=' && !isMarkupSpace c) afterFirst
    simp only at h
    split at h
    · cases h
      simp only [List.length_nil]
      omega
    · rename_i c rest hc
      rw [hc, List.length_cons] at h₂
      split at h
      · cases h
        have h₄ := length_readValue_rest_le total seen
          (k :: afterFirst.takeWhile fun c => c != '=' && !isMarkupSpace c)
          (total - Text.byteSize (k :: afterFirst)) rest
        omega
      · cases h
        simp only [List.length_cons]
        omega

/-- The attributes in the characters that end a tag text of `total` bytes, with the problems met
among them, in order. -/
def readAll (total : Nat) (seen : List (List Char × Nat)) (cs : List Char) :
    List (Except Error Raw) :=
  match _ : step? total seen cs with
  | none => []
  | some s => s.result :: readAll total s.seen s.rest
termination_by cs.length
decreasing_by exact length_step?_rest_lt ‹_›

end Attribute

end IntegrationFlow.Xml
