import IntegrationFlow.Json.Basic

/-!
# Reading JSON

A text is cut into tokens, and a machine with a stack of unfinished arrays and objects puts the
tokens together. Nothing beyond the format is accepted.
-/

namespace IntegrationFlow.Json

/-! ### Tokens -/

/-- A token. -/
inductive Token where
  | beginArray
  | endArray
  | beginObject
  | endObject
  | colon
  | comma
  /-- A value without parts. -/
  | atom (j : Json)

/-- The value of a hexadecimal digit. -/
def hexValue? (c : Char) : Option Nat :=
  if '0' ≤ c ∧ c ≤ '9' then some (c.toNat - '0'.toNat)
  else if 'a' ≤ c ∧ c ≤ 'f' then some (c.toNat - 'a'.toNat + 10)
  else if 'A' ≤ c ∧ c ≤ 'F' then some (c.toNat - 'A'.toNat + 10)
  else none

/-- The code of four hexadecimal digits. -/
def hexCode? (a b c d : Char) : Option Nat := do
  return ((((← hexValue? a) * 16 + (← hexValue? b)) * 16 + (← hexValue? c)) * 16 + (← hexValue? d))

/-- The character that a named escape stands for. -/
def escaped? : Char → Option Char
  | '"' => some '"'
  | '\\' => some '\\'
  | '/' => some '/'
  | 'b' => some (Char.ofNat 0x08)
  | 'f' => some (Char.ofNat 0x0C)
  | 'n' => some '\n'
  | 'r' => some '\r'
  | 't' => some '\t'
  | _ => none

/-- What stands between an opening quote and the quote that closes it, and what follows that. -/
def readString? : List Char → Option (List Letter × List Char)
  | [] => none
  | '"' :: cs => some ([], cs)
  | '\\' :: 'u' :: a :: b :: c :: d :: cs =>
    match hexCode? a b c d with
    | none => none
    | some code =>
      (readString? cs).map fun (s, rest) =>
        ((if 0xD800 ≤ code ∧ code ≤ 0xDFFF then .surrogate code else .char (Char.ofNat code)) :: s,
          rest)
  | '\\' :: c :: cs =>
    match escaped? c with
    | none => none
    | some e => (readString? cs).map fun (s, rest) => (.char e :: s, rest)
  | c :: cs =>
    if c.toNat < 0x20 then none
    else (readString? cs).map fun (s, rest) => (.char c :: s, rest)

/-- Puts each leading surrogate together with the trailing one that follows it. -/
def pairSurrogates : List Letter → List Letter
  | .surrogate high :: .surrogate low :: s =>
    if high < 0xDC00 ∧ 0xDC00 ≤ low then
      .char (Char.ofNat (0x10000 + (high - 0xD800) * 0x400 + (low - 0xDC00))) :: pairSurrogates s
    else .surrogate high :: pairSurrogates (.surrogate low :: s)
  | l :: s => l :: pairSurrogates s
  | [] => []

/-- A number and what follows it. A whole part other than zero does not begin with a zero. -/
def readNumber? (cs : List Char) : Option (Number × List Char) :=
  let (negative, cs) :=
    match cs with
    | '-' :: cs => (true, cs)
    | _ => (false, cs)
  let whole := cs.takeWhile Char.isDigit
  let rest := cs.dropWhile Char.isDigit
  if whole.isEmpty ∨ (whole.head? = some '0' ∧ 1 < whole.length) then none
  else
    let fraction? :=
      match rest with
      | '.' :: cs =>
        let digits := cs.takeWhile Char.isDigit
        if digits.isEmpty then none else some (digits, cs.dropWhile Char.isDigit)
      | _ => some ([], rest)
    fraction?.bind fun (fraction, rest) =>
      match rest with
      | c :: cs =>
        if c = 'e' ∨ c = 'E' then
          let (negativePower, cs) :=
            match cs with
            | '-' :: cs => (true, cs)
            | '+' :: cs => (false, cs)
            | _ => (false, cs)
          let digits := cs.takeWhile Char.isDigit
          if digits.isEmpty then none
          else
            some (⟨negative, whole, fraction, some (negativePower, digits)⟩,
              cs.dropWhile Char.isDigit)
        else some (⟨negative, whole, fraction, none⟩, rest)
      | [] => some (⟨negative, whole, fraction, none⟩, [])

/-- The token at the beginning of a text that does not begin with a blank, and what follows it. -/
def lex? : List Char → Option (Token × List Char)
  | '[' :: cs => some (.beginArray, cs)
  | ']' :: cs => some (.endArray, cs)
  | '\x7b' :: cs => some (.beginObject, cs)
  | '\x7d' :: cs => some (.endObject, cs)
  | ':' :: cs => some (.colon, cs)
  | ',' :: cs => some (.comma, cs)
  | '"' :: cs => (readString? cs).map fun (s, rest) => (.atom (.string (pairSurrogates s)), rest)
  | 'n' :: 'u' :: 'l' :: 'l' :: cs => some (.atom .null, cs)
  | 't' :: 'r' :: 'u' :: 'e' :: cs => some (.atom (.bool true), cs)
  | 'f' :: 'a' :: 'l' :: 's' :: 'e' :: cs => some (.atom (.bool false), cs)
  | cs => (readNumber? cs).map fun (n, rest) => (.atom (.number n), rest)

/-- The characters that may stand between tokens. -/
def isGap (c : Char) : Bool := c == ' ' || c == '\n' || c == '\t' || c == '\r'

/-- The tokens of a text, taking at most one from each of `budget` characters. -/
def tokensWithin : (budget : Nat) → List Char → Option (List Token)
  | 0, cs => if cs.all isGap then some [] else none
  | budget + 1, cs =>
    match cs.dropWhile isGap with
    | [] => some []
    | c :: cs =>
      match lex? (c :: cs) with
      | none => none
      | some (t, rest) => (tokensWithin budget rest).map (t :: ·)

/-- The tokens of a text. -/
def tokens (cs : List Char) : Option (List Token) := tokensWithin cs.length cs

/-! ### Values -/

/-- An array or object that is not finished; its parts are held last first. -/
inductive Frame where
  | array (items : List Json)
  | object (members : List (List Letter × Json))
  /-- An object after a key and its colon. -/
  | member (members : List (List Letter × Json)) (key : List Letter)

/-- What may come next. -/
inductive Expected where
  | value
  | valueOrEnd
  | key
  | keyOrEnd
  | colon (key : List Letter)
  | commaOrEnd
  | nothing (result : Json)

/-- The machine: what it waits for and the unfinished values, innermost first. -/
structure Machine where
  expected : Expected := .value
  stack : List Frame := []

namespace Machine

/-- Takes in a finished value. -/
def complete (stack : List Frame) (j : Json) : Option Machine :=
  match stack with
  | [] => some ⟨.nothing j, []⟩
  | .array items :: rest => some ⟨.commaOrEnd, .array (j :: items) :: rest⟩
  | .member members key :: rest => some ⟨.commaOrEnd, .object ((key, j) :: members) :: rest⟩
  | .object _ :: _ => none

/-- Takes in the beginning of a value. -/
def startValue (stack : List Frame) : Token → Option Machine
  | .beginArray => some ⟨.valueOrEnd, .array [] :: stack⟩
  | .beginObject => some ⟨.keyOrEnd, .object [] :: stack⟩
  | .atom j => complete stack j
  | _ => none

/-- Takes in a key. -/
def startMember (stack : List Frame) : Token → Option Machine
  | .atom (.string key) => some ⟨.colon key, stack⟩
  | _ => none

/-- Takes in one token. -/
def step (m : Machine) (t : Token) : Option Machine :=
  match m.expected, m.stack, t with
  | .value, stack, t => startValue stack t
  | .valueOrEnd, .array items :: rest, .endArray => complete rest (.array items.reverse)
  | .valueOrEnd, stack, t => startValue stack t
  | .key, stack, t => startMember stack t
  | .keyOrEnd, .object members :: rest, .endObject => complete rest (.object members.reverse)
  | .keyOrEnd, stack, t => startMember stack t
  | .colon key, .object members :: rest, .colon => some ⟨.value, .member members key :: rest⟩
  | .commaOrEnd, .array items :: rest, .comma => some ⟨.value, .array items :: rest⟩
  | .commaOrEnd, .array items :: rest, .endArray => complete rest (.array items.reverse)
  | .commaOrEnd, .object members :: rest, .comma => some ⟨.key, .object members :: rest⟩
  | .commaOrEnd, .object members :: rest, .endObject => complete rest (.object members.reverse)
  | _, _, _ => none

end Machine

/-- The value that a text holds. -/
def parse? (s : String) : Option Json := do
  let ts ← tokens s.toList
  let m ← ts.foldlM Machine.step {}
  match m.expected with
  | .nothing j => some j
  | _ => none

end IntegrationFlow.Json
