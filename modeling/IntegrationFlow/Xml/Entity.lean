import IntegrationFlow.Text.Basic

/-!
# Entities

Five characters have names in markup, and any character can be written by its number. Writing
replaces the five; reading resolves names and numbers, from left to right, and stops at the first
reference that means nothing.
-/

namespace IntegrationFlow.Xml.Entity

/-! ### Writing -/

/-- A character as it is written in a text or an attribute value. -/
def escapeChar : Char → List Char
  | '<' => ['&', 'l', 't', ';']
  | '>' => ['&', 'g', 't', ';']
  | '&' => ['&', 'a', 'm', 'p', ';']
  | '\'' => ['&', 'a', 'p', 'o', 's', ';']
  | '"' => ['&', 'q', 'u', 'o', 't', ';']
  | c => [c]

/-- A text as it is written in markup. -/
def escape (s : String) : String := String.ofList (s.toList.flatMap escapeChar)

/-! ### Reading -/

/-- What is wrong with a reference. Ranges are byte offsets in the text that holds it. -/
inductive Error where
  | unterminated (start stop : Nat)
  | unknown (start stop : Nat) (name : String)
  | signedNumber
  | emptyNumber
  | badDigit
  | numberTooLarge
  | nullCharacter
  | notCharacter (code : Nat)
  deriving DecidableEq, Repr

/-- The wording of an error. -/
def Error.message : Error → String
  | .unterminated start stop =>
    "Error while escaping character at range " ++ toString start ++ ".." ++ toString stop ++
      ": Cannot find ';' after '&'"
  | .unknown start stop name =>
    "at " ++ toString start ++ ".." ++ toString stop ++ ": unrecognized entity `" ++ name ++ "`"
  | .signedNumber => "invalid character reference: unexpected number sign"
  | .emptyNumber => "invalid character reference: cannot parse integer from empty string"
  | .badDigit => "invalid character reference: invalid digit found in string"
  | .numberTooLarge => "invalid character reference: number too large to fit in target type"
  | .nullCharacter => "invalid character reference: 0x0 character is not permitted in XML"
  | .notCharacter code =>
    "invalid character reference: `" ++ toString code ++ "` is not a valid codepoint"

/-- The value of a digit in a base of at most sixteen. -/
def digitValue (base : Nat) (c : Char) : Option Nat :=
  let value :=
    if '0' ≤ c ∧ c ≤ '9' then some (c.toNat - '0'.toNat)
    else if 'a' ≤ c ∧ c ≤ 'f' then some (c.toNat - 'a'.toNat + 10)
    else if 'A' ≤ c ∧ c ≤ 'F' then some (c.toNat - 'A'.toNat + 10)
    else none
  value.filter (· < base)

/-- The number that follows `n` when digits are read in a base. It has to fit in 32 bits. -/
def readDigits (base : Nat) : Nat → List Char → Except Error Nat
  | n, [] => .ok n
  | n, c :: cs =>
    match digitValue base c with
    | none => .error .badDigit
    | some d =>
      if n * base + d < 0x100000000 then readDigits base (n * base + d) cs
      else .error .numberTooLarge

/-- The number written by digits without a sign. -/
def readNumber (base : Nat) : List Char → Except Error Nat
  | [] => .error .emptyNumber
  | c :: cs => if c = '+' ∨ c = '-' then .error .signedNumber else readDigits base 0 (c :: cs)

/-- The character with a number. -/
def ofCode (code : Nat) : Except Error Char :=
  if code = 0 then .error .nullCharacter
  else if code.isValidChar then .ok (Char.ofNat code)
  else .error (.notCharacter code)

/-- The character that a reference stands for, given what is between `&` and `;`. The name begins
at byte `start` of the text. -/
def resolve (start : Nat) (name : List Char) : Except Error Char :=
  match name with
  | '#' :: 'x' :: digits => (readNumber 16 digits).bind ofCode
  | '#' :: digits => (readNumber 10 digits).bind ofCode
  | ['l', 't'] => .ok '<'
  | ['g', 't'] => .ok '>'
  | ['a', 'm', 'p'] => .ok '&'
  | ['a', 'p', 'o', 's'] => .ok '\''
  | ['q', 'u', 'o', 't'] => .ok '"'
  | _ => .error (.unknown start (start + Text.byteSize name) (String.ofList name))

/-- Resolves the references in the characters from byte `offset` on, in a text of `total` bytes.
`pending` holds the characters since an `&` that has not met its `;`, the last one first. -/
def unescapeFrom (total : Nat) : Nat → Option (List Char) → List Char → Except Error (List Char)
  | _, none, [] => .ok []
  | offset, some name, [] => .error (.unterminated (offset - Text.byteSize name - 1) total)
  | offset, none, c :: cs =>
    if c = '&' then unescapeFrom total (offset + 1) (some []) cs
    else (unescapeFrom total (offset + c.utf8Size) none cs).map (c :: ·)
  | offset, some name, c :: cs =>
    if c = '&' then .error (.unterminated (offset - Text.byteSize name - 1) total)
    else if c = ';' then
      match resolve (offset - Text.byteSize name) name.reverse with
      | .error e => .error e
      | .ok d => (unescapeFrom total (offset + 1) none cs).map (d :: ·)
    else unescapeFrom total (offset + c.utf8Size) (some (c :: name)) cs

/-- A text with its references resolved. -/
def unescape (cs : List Char) : Except Error String :=
  (unescapeFrom (Text.byteSize cs) 0 none cs).map String.ofList

end IntegrationFlow.Xml.Entity
