import IntegrationFlow.Decimal.Reader
import IntegrationFlow.Toml.Value

/-!
# TOML numbers, truth values and moments

What stands without quotes is one word, and the whole word must be a value.
-/

namespace IntegrationFlow.Toml

/-! ### Digits -/

/-- Digits without the underscores that stand between them. -/
def joinDigits? (isDigit : Char → Bool) : List Char → Option (List Char)
  | [] => none
  | [c] => if isDigit c then some [c] else none
  | c :: '_' :: cs => if isDigit c then (joinDigits? isDigit cs).map (c :: ·) else none
  | c :: cs => if isDigit c then (joinDigits? isDigit cs).map (c :: ·) else none

/-- The value of a digit in any base up to sixteen. -/
def digitValue (c : Char) : Nat :=
  if c ≤ '9' then c.toNat - '0'.toNat
  else if c ≤ 'F' then c.toNat - 'A'.toNat + 10
  else c.toNat - 'a'.toNat + 10

/-- The number that digits stand for in a base. -/
def digitsIn (base : Nat) (digits : List Char) : Nat :=
  digits.foldl (fun n c => n * base + digitValue c) 0

/-- The sign at the front of a word, and the rest. -/
def takeSign : List Char → List Char × List Char
  | '+' :: cs => (['+'], cs)
  | '-' :: cs => (['-'], cs)
  | cs => ([], cs)

/-- Decimal digits without underscores. A zero does not come before other digits. -/
def decimalDigits? (cs : List Char) : Option (List Char) :=
  match cs with
  | '0' :: _ :: _ => none
  | _ => joinDigits? Char.isDigit cs

/-! ### Numbers -/

/-- A number that fits in 64 bits with its sign. -/
def bounded? (n : Int) : Option Value :=
  if -0x8000000000000000 ≤ n ∧ n < 0x8000000000000000 then some (.integer n) else none

/-- A whole number in another base. -/
def basedInteger? (base : Nat) (isDigit : Char → Bool) (cs : List Char) : Option Value :=
  (joinDigits? isDigit cs).bind fun digits => bounded? (digitsIn base digits)

/-- Whether a character is a hexadecimal digit. -/
def isHexDigit (c : Char) : Bool := c.isDigit || ('a' ≤ c && c ≤ 'f') || ('A' ≤ c && c ≤ 'F')

/-- A whole number. -/
def integer? : List Char → Option Value
  | '0' :: 'x' :: cs => basedInteger? 16 isHexDigit cs
  | '0' :: 'o' :: cs => basedInteger? 8 (fun c => '0' ≤ c && c ≤ '7') cs
  | '0' :: 'b' :: cs => basedInteger? 2 (fun c => c == '0' || c == '1') cs
  | cs =>
    let (sign, cs) := takeSign cs
    (decimalDigits? cs).bind fun digits =>
      let n : Int := digitsIn 10 digits
      bounded? (if sign = ['-'] then -n else n)

/-- A power of ten without its underscores. -/
def power? : List Char → Option (List Char)
  | [] => some []
  | _ :: cs =>
    let (sign, cs) := takeSign cs
    (joinDigits? Char.isDigit cs).map fun digits => 'e' :: sign ++ digits

/-- The places behind the point without their underscores. -/
def places? : List Char → Option (List Char)
  | [] => some []
  | _ :: cs => (joinDigits? Char.isDigit cs).map ('.' :: ·)

/-- A number with a point or a power of ten. One too great for a double is refused unless it is
negative. -/
def fraction? (cs : List Char) : Option Value := do
  let (sign, digits) := takeSign cs
  let isPower (c : Char) := c == 'e' || c == 'E'
  let mantissa := digits.takeWhile (!isPower ·)
  let whole ← decimalDigits? (mantissa.takeWhile (· != '.'))
  let places ← places? (mantissa.dropWhile (· != '.'))
  let power ← power? (digits.dropWhile (!isPower ·))
  if places.isEmpty ∧ power.isEmpty then none
  else
    let x ← Decimal.read? (String.ofList (sign ++ whole ++ places ++ power))
    if x.isInf ∧ sign ≠ ['-'] then none else some (.float x)

/-! ### Moments -/

/-- The number of exactly so many digits at the front of a word, and the rest. -/
def takeDigits? (count : Nat) (cs : List Char) : Option (Nat × List Char) :=
  let digits := cs.take count
  if digits.length = count ∧ digits.all Char.isDigit then
    some (digitsIn 10 digits, cs.drop count)
  else none

/-- A word without a character at its front. -/
def take? (c : Char) : List Char → Option (List Char)
  | d :: cs => if c = d then some cs else none
  | [] => none

/-- How many days a month has. -/
def daysIn (year month : Nat) : Nat :=
  if month = 2 then
    if year % 4 = 0 ∧ (year % 100 ≠ 0 ∨ year % 400 = 0) then 29 else 28
  else if month ∈ [4, 6, 9, 11] then 30
  else 31

/-- What follows a date. -/
def afterDate? (cs : List Char) : Option (List Char) := do
  let (year, cs) ← takeDigits? 4 cs
  let (month, cs) ← takeDigits? 2 (← take? '-' cs)
  let (day, cs) ← takeDigits? 2 (← take? '-' cs)
  if 1 ≤ month ∧ month ≤ 12 ∧ day ≤ daysIn year month ∧ 1 ≤ day then some cs else none

/-- What follows the hour and minute of a time. -/
def afterMinutes? (cs : List Char) : Option (List Char) := do
  let (hour, cs) ← takeDigits? 2 cs
  let (minute, cs) ← takeDigits? 2 (← take? ':' cs)
  if hour ≤ 23 ∧ minute ≤ 59 then some cs else none

/-- What follows a time of day. -/
def afterTime? (cs : List Char) : Option (List Char) := do
  let (second, cs) ← takeDigits? 2 (← take? ':' (← afterMinutes? cs))
  if 60 < second then none
  else
    match cs with
    | '.' :: places =>
      if (places.takeWhile Char.isDigit).isEmpty then none
      else some (places.dropWhile Char.isDigit)
    | _ => some cs

/-- Whether a word is empty or a distance from universal time. -/
def isOffset : List Char → Bool
  | [] => true
  | ['Z'] => true
  | ['z'] => true
  | c :: cs => (c == '+' || c == '-') && afterMinutes? cs == some []

/-- Whether a word is a date, a time of day, or both with one of three characters between them. -/
def isMoment (cs : List Char) : Bool :=
  match afterDate? cs with
  | some [] => true
  | some (c :: time) => (c == 'T' || c == 't' || c == ' ') && (afterTime? time).any isOffset
  | none => afterTime? cs == some []

/-! ### Words -/

/-- Whether a character may stand in a word. -/
def isWordChar (c : Char) : Bool :=
  c.isAlphanum || c == '_' || c == '+' || c == '-' || c == '.' || c == ':'

/-- The value of a word. -/
def word? (cs : List Char) : Option Value :=
  match String.ofList cs with
  | "true" => some (.bool true)
  | "false" => some (.bool false)
  | "inf" | "+inf" => some (.float (1 / 0))
  | "-inf" => some (.float (-1 / 0))
  | "nan" | "+nan" | "-nan" => some (.float (0 / 0))
  | s => if isMoment cs then some (.moment s) else (integer? cs).or (fraction? cs)

/-- The word at the front of a text, and the rest. A blank joins a date and a time. -/
def takeWord (cs : List Char) : List Char × List Char :=
  let word := cs.takeWhile isWordChar
  let rest := cs.dropWhile isWordChar
  match rest with
  | ' ' :: c :: more =>
    if afterDate? word = some [] ∧ c.isDigit then
      (word ++ ' ' :: (c :: more).takeWhile isWordChar, (c :: more).dropWhile isWordChar)
    else (word, rest)
  | _ => (word, rest)

end IntegrationFlow.Toml
