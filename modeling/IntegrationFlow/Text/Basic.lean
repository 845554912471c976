import IntegrationFlow.Text.Character

/-!
# Cutting and searching text

Trimming, splitting at a character, and search for a part, all on the characters of a text.
-/

namespace IntegrationFlow.Text

/-! ### Trimming -/

/-- The characters without the leading and trailing ones that satisfy `p`. -/
def trimBy (p : Char → Bool) (cs : List Char) : List Char :=
  ((cs.dropWhile p).reverse.dropWhile p).reverse

/-- A text without leading and trailing white space. -/
def trim (s : String) : String := String.ofList (trimBy isSpace s.toList)

/-- Whether a text holds white space only. -/
def isBlank (s : String) : Bool := s.toList.all isSpace

/-! ### Splitting -/

/-- The pieces of `cs` between the occurrences of `sep`; there is always at least one. -/
def splitOn (sep : Char) : List Char → List (List Char)
  | [] => [[]]
  | c :: cs =>
    if c = sep then [] :: splitOn sep cs
    else
      match splitOn sep cs with
      | piece :: pieces => (c :: piece) :: pieces
      | [] => [[c]]

/-- What follows the last `sep`, or everything if there is none. -/
def afterLast (sep : Char) (s : String) : String :=
  String.ofList (s.toList.reverse.takeWhile (· != sep)).reverse

/-- What precedes the first `sep`, or everything if there is none. -/
def beforeFirst (sep : Char) (s : String) : String :=
  String.ofList (s.toList.takeWhile (· != sep))

/-! ### Parts of a text -/

/-- Whether `part` begins the text `s`. -/
def beginsWith (part s : String) : Bool := part.toList.isPrefixOf s.toList

/-- Whether `part` ends the text `s`. -/
def finishesWith (part s : String) : Bool := part.toList.isSuffixOf s.toList

/-- Whether `part` stands somewhere in `cs`. -/
def occursIn (part : List Char) : List Char → Bool
  | [] => part.isEmpty
  | c :: cs => part.isPrefixOf (c :: cs) || occursIn part cs

/-- Whether `part` stands somewhere in the text `s`. -/
def hasPart (part s : String) : Bool := occursIn part.toList s.toList

/-- What follows `part` at the beginning of `cs`. -/
def dropHead? : (part cs : List Char) → Option (List Char)
  | [], cs => some cs
  | _ :: _, [] => none
  | p :: ps, c :: cs => if p = c then dropHead? ps cs else none

theorem dropHead?_eq_some {part cs rest : List Char} :
    dropHead? part cs = some rest ↔ cs = part ++ rest := by
  induction part generalizing cs with
  | nil => simp [dropHead?, eq_comm]
  | cons p ps ih =>
    cases cs with
    | nil => simp [dropHead?]
    | cons c cs =>
      by_cases h : p = c
      · simp [dropHead?, h, ih]
      · simp [dropHead?, h, Ne.symm h]

/-! ### Sizes in bytes -/

/-- The number of bytes that `cs` takes in UTF-8. -/
def byteSize : List Char → Nat
  | [] => 0
  | c :: cs => c.utf8Size + byteSize cs

/-- What follows the first `n` bytes of the characters; nothing when the cut is inside a character
or past the end. -/
def dropBytes? (n : Nat) : List Char → Option (List Char)
  | [] => if n = 0 then some [] else none
  | c :: cs =>
    if n = 0 then some (c :: cs)
    else if c.utf8Size ≤ n then dropBytes? (n - c.utf8Size) cs
    else none

/-- The first `n` bytes of the characters; nothing when the cut is inside a character or past the
end. -/
def takeBytes? (n : Nat) : List Char → Option (List Char)
  | [] => if n = 0 then some [] else none
  | c :: cs =>
    if n = 0 then some []
    else if c.utf8Size ≤ n then (takeBytes? (n - c.utf8Size) cs).map (c :: ·)
    else none

/-- The text between two byte offsets; empty when either is not between two characters. -/
def slice (s : String) (start stop : Nat) : String :=
  if start ≤ stop then
    match (dropBytes? start s.toList).bind (takeBytes? (stop - start)) with
    | some cs => String.ofList cs
    | none => ""
  else ""

/-! ### Lines -/

/-- The line and column, both from one, of the place after the characters `before`. -/
def lineColumn (before : List Char) : Nat × Nat :=
  (before.count '\n' + 1, (before.reverse.takeWhile (· != '\n')).length + 1)

/-- The line and column of a byte offset. An offset past the end stands for the end, and so does
one inside a character. -/
def lineColumnAt (s : String) (offset : Nat) : Nat × Nat :=
  lineColumn ((takeBytes? offset s.toList).getD s.toList)

end IntegrationFlow.Text
