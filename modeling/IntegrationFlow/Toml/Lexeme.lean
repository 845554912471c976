/-!
# TOML text

Blanks, comments, ends of lines, strings and keys. Each reader takes something off the front of a
text and answers nothing where it is not there.
-/

namespace IntegrationFlow.Toml

/-! ### Between values -/

/-- Whether a character is a blank within a line. -/
def isBlank (c : Char) : Bool := c == ' ' || c == '\t'

/-- Whether a character may stand in a comment. -/
def isCommentChar (c : Char) : Bool := c == '\t' || (' ' ≤ c && c.toNat ≠ 0x7F)

/-- A text without the blanks at its front. -/
def skipBlanks (cs : List Char) : List Char := cs.dropWhile isBlank

/-- A text without the comment at its front. -/
def skipComment : List Char → List Char
  | '#' :: cs => cs.dropWhile isCommentChar
  | cs => cs

/-- What follows the end of a line, which blanks and a comment may precede. -/
def endLine? (cs : List Char) : Option (List Char) :=
  match skipComment (skipBlanks cs) with
  | [] => some []
  | '\n' :: cs => some cs
  | '\r' :: '\n' :: cs => some cs
  | _ => none

/-- A text without the blanks, comments and line ends at its front; `comment` tells whether it
begins within a comment. -/
def skipLines (comment : Bool) : List Char → List Char
  | [] => []
  | '\r' :: '\n' :: cs => skipLines false cs
  | c :: cs =>
    if c == '\n' then skipLines false cs
    else if comment then (if isCommentChar c then skipLines true cs else c :: cs)
    else if isBlank c then skipLines false cs
    else if c == '#' then skipLines true cs
    else c :: cs

/-! ### Strings -/

/-- Whether a character stands for itself between double quotes. -/
def isBasicChar (c : Char) : Bool := isCommentChar c && c ≠ '"' && c ≠ '\\'

/-- Whether a character stands for itself between single quotes. -/
def isLiteralChar (c : Char) : Bool := isCommentChar c && c ≠ '\''

/-- The value of a hexadecimal digit. -/
def hexDigit? (c : Char) : Option Nat :=
  if '0' ≤ c ∧ c ≤ '9' then some (c.toNat - '0'.toNat)
  else if 'a' ≤ c ∧ c ≤ 'f' then some (c.toNat - 'a'.toNat + 10)
  else if 'A' ≤ c ∧ c ≤ 'F' then some (c.toNat - 'A'.toNat + 10)
  else none

/-- The character with a code in hexadecimal digits. -/
def charOfHex? (digits : List Char) : Option Char := do
  let code := (← digits.mapM hexDigit?).foldl (fun n d => n * 16 + d) 0
  if Nat.isValidChar code then some (Char.ofNat code) else none

/-- The character that a letter after a backslash stands for. -/
def escaped? : Char → Option Char
  | 'b' => some (Char.ofNat 0x08)
  | 't' => some '\t'
  | 'n' => some '\n'
  | 'f' => some (Char.ofNat 0x0C)
  | 'r' => some '\r'
  | '"' => some '"'
  | '\\' => some '\\'
  | _ => none

/-- A character in front of what was read. -/
def consChar (c : Char) : List Char × List Char → List Char × List Char
  | (s, rest) => (c :: s, rest)

/-- What stands before a closing double quote, and what follows it. -/
def basicString? : List Char → Option (List Char × List Char)
  | [] => none
  | '"' :: cs => some ([], cs)
  | '\\' :: 'u' :: a :: b :: c :: d :: cs =>
    (charOfHex? [a, b, c, d]).bind fun x => (basicString? cs).map (consChar x)
  | '\\' :: 'U' :: a :: b :: c :: d :: e :: f :: g :: h :: cs =>
    (charOfHex? [a, b, c, d, e, f, g, h]).bind fun x => (basicString? cs).map (consChar x)
  | '\\' :: c :: cs => (escaped? c).bind fun x => (basicString? cs).map (consChar x)
  | c :: cs => if isBasicChar c then (basicString? cs).map (consChar c) else none

/-- What stands before a closing single quote, and what follows it. -/
def literalString? : List Char → Option (List Char × List Char)
  | [] => none
  | '\'' :: cs => some ([], cs)
  | c :: cs => if isLiteralChar c then (literalString? cs).map (consChar c) else none

/-- Where a reader is in a string of several lines. -/
inductive Fold where
  | none
  /-- Between a backslash and the end of its line. -/
  | opened
  /-- In the white space after such an end. -/
  | closed
  deriving DecidableEq

/-- What stands before three closing double quotes, and what follows them. Up to two quotes may
stand right before those. A backslash at the end of a line removes the white space up to the next
character. -/
def longBasicString? (fold : Fold) : List Char → Option (List Char × List Char)
  | [] => none
  | '\r' :: '\n' :: cs =>
    if fold = .none then (longBasicString? .none cs).map (consChar '\n')
    else longBasicString? .closed cs
  | '\n' :: cs =>
    if fold = .none then (longBasicString? .none cs).map (consChar '\n')
    else longBasicString? .closed cs
  | '\\' :: 'u' :: a :: b :: c :: d :: cs =>
    if fold = .opened then none
    else (charOfHex? [a, b, c, d]).bind fun x => (longBasicString? .none cs).map (consChar x)
  | '\\' :: 'U' :: a :: b :: c :: d :: e :: f :: g :: h :: cs =>
    if fold = .opened then none
    else
      (charOfHex? [a, b, c, d, e, f, g, h]).bind fun x =>
        (longBasicString? .none cs).map (consChar x)
  | '\\' :: c :: cs =>
    if fold = .opened then none
    else if isBlank c then longBasicString? .opened cs
    else if c == '\n' then longBasicString? .closed cs
    else if c == '\r' then
      match cs with
      | '\n' :: cs => longBasicString? .closed cs
      | _ => none
    else (escaped? c).bind fun x => (longBasicString? .none cs).map (consChar x)
  | '"' :: '"' :: '"' :: '"' :: '"' :: cs => if fold = .opened then none else some (['"', '"'], cs)
  | '"' :: '"' :: '"' :: '"' :: cs => if fold = .opened then none else some (['"'], cs)
  | '"' :: '"' :: '"' :: cs => if fold = .opened then none else some ([], cs)
  | c :: cs =>
    if isBlank c ∧ fold ≠ .none then longBasicString? fold cs
    else if fold = .opened then none
    else if isBasicChar c ∨ c = '"' then (longBasicString? .none cs).map (consChar c)
    else none

/-- What stands before three closing single quotes, and what follows them. Up to two quotes may
stand right before those. -/
def longLiteralString? : List Char → Option (List Char × List Char)
  | [] => none
  | '\r' :: '\n' :: cs => (longLiteralString? cs).map (consChar '\n')
  | '\'' :: '\'' :: '\'' :: '\'' :: '\'' :: cs => some (['\'', '\''], cs)
  | '\'' :: '\'' :: '\'' :: '\'' :: cs => some (['\''], cs)
  | '\'' :: '\'' :: '\'' :: cs => some ([], cs)
  | c :: cs =>
    if isLiteralChar c ∨ c = '\'' ∨ c = '\n' then (longLiteralString? cs).map (consChar c)
    else none

/-- A text without the line end at its front. -/
def skipLineEnd : List Char → List Char
  | '\n' :: cs => cs
  | '\r' :: '\n' :: cs => cs
  | cs => cs

/-- A string of any of the four kinds, with its quotes. -/
def quoted? : List Char → Option (String × List Char)
  | '"' :: '"' :: '"' :: cs => text (longBasicString? .none (skipLineEnd cs))
  | '\'' :: '\'' :: '\'' :: cs => text (longLiteralString? (skipLineEnd cs))
  | '"' :: cs => text (basicString? cs)
  | '\'' :: cs => text (literalString? cs)
  | _ => none
where
  /-- The characters as a string. -/
  text (r : Option (List Char × List Char)) : Option (String × List Char) :=
    r.map fun (s, rest) => (String.ofList s, rest)

/-! ### Keys -/

/-- Whether a character may stand in a key without quotes. -/
def isKeyChar (c : Char) : Bool := c.isAlphanum || c == '-' || c == '_'

/-- One part of a key. -/
def keyPart? : List Char → Option (String × List Char)
  | '"' :: cs => (basicString? cs).map fun (s, rest) => (String.ofList s, rest)
  | '\'' :: cs => (literalString? cs).map fun (s, rest) => (String.ofList s, rest)
  | cs =>
    let part := cs.takeWhile isKeyChar
    if part.isEmpty then none else some (String.ofList part, cs.dropWhile isKeyChar)

/-- The parts of a key, with blanks around them and points between them. -/
def keyParts? (cs : List Char) : Option (List String × List Char) :=
  match keyPart? (skipBlanks cs) with
  | none => none
  | some (part, rest) =>
    match skipBlanks rest with
    | '.' :: more =>
      if more.length < cs.length then
        (keyParts? more).map fun (parts, rest) => (part :: parts, rest)
      else none
    | rest => some ([part], rest)
termination_by cs.length

/-- How deep keys and values may be nested. -/
def depthLimit : Nat := 80

/-- A key as the parts before its last and the last. -/
def key? (cs : List Char) : Option (List String × String × List Char) :=
  match keyParts? cs with
  | none => none
  | some (parts, rest) =>
    if parts.length < depthLimit then parts.getLast?.map fun last => (parts.dropLast, last, rest)
    else none

end IntegrationFlow.Toml
