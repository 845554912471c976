import IntegrationFlow.Json.Basic

/-!
# Writing JSON

Either on one line without blanks, or with a line for each member and item.
-/

namespace IntegrationFlow.Json

/-- A number below sixteen as a hexadecimal digit. -/
def hexDigit (n : Nat) : Char := if n < 10 then Char.ofNat (48 + n) else Char.ofNat (87 + n)

/-- A code of sixteen bits as an escape. -/
def escapeCode (n : Nat) : List Char :=
  ['\\', 'u', hexDigit (n / 4096 % 16), hexDigit (n / 256 % 16), hexDigit (n / 16 % 16),
    hexDigit (n % 16)]

/-- A letter as it is written between quotes. Control characters are escaped, by a name if they
have one. -/
def escapeLetter : Letter → List Char
  | .surrogate code => escapeCode code
  | .char c =>
    if c = '"' then ['\\', '"']
    else if c = '\\' then ['\\', '\\']
    else if c.toNat = 0x08 then ['\\', 'b']
    else if c.toNat = 0x0C then ['\\', 'f']
    else if c = '\n' then ['\\', 'n']
    else if c = '\r' then ['\\', 'r']
    else if c = '\t' then ['\\', 't']
    else if c.toNat < 0x20 then escapeCode c.toNat
    else [c]

/-- A string with its quotes. -/
def quote (s : List Letter) : String := "\"" ++ String.ofList (s.flatMap escapeLetter) ++ "\""

/-- A number with the digits it was written with. A power of ten has a sign. -/
def Number.print (n : Number) : String :=
  (if n.negative then "-" else "") ++ String.ofList n.whole ++
    (if n.fraction.isEmpty then "" else "." ++ String.ofList n.fraction) ++
    match n.power with
    | none => ""
    | some (negative, digits) => (if negative then "e-" else "e+") ++ String.ofList digits

/-! ### On one line -/

mutual

/-- A value without blanks. -/
def compress : Json → String
  | .null => "null"
  | .bool b => if b then "true" else "false"
  | .number n => n.print
  | .string s => quote s
  | .array items => "[" ++ compressItems items ++ "]"
  | .object members => "\x7b" ++ compressMembers members ++ "\x7d"

/-- Items with commas between them. -/
def compressItems : List Json → String
  | [] => ""
  | [j] => compress j
  | j :: js => compress j ++ "," ++ compressItems js

/-- Members with commas between them. -/
def compressMembers : List (List Letter × Json) → String
  | [] => ""
  | [(key, j)] => quote key ++ ":" ++ compress j
  | (key, j) :: rest => quote key ++ ":" ++ compress j ++ "," ++ compressMembers rest

end

/-! ### On several lines -/

/-- A line break and two blanks for each level. -/
def newLine (depth : Nat) : String := "\n" ++ String.ofList (List.replicate (2 * depth) ' ')

mutual

/-- A value with a line for each part, at a depth. -/
def prettyAt (depth : Nat) : Json → String
  | .null => "null"
  | .bool b => if b then "true" else "false"
  | .number n => n.print
  | .string s => quote s
  | .array [] => "[]"
  | .array (j :: js) => "[" ++ prettyItems (depth + 1) (j :: js) ++ newLine depth ++ "]"
  | .object [] => "\x7b\x7d"
  | .object (m :: ms) => "\x7b" ++ prettyMembers (depth + 1) (m :: ms) ++ newLine depth ++ "\x7d"

/-- Items on lines of their own. -/
def prettyItems (depth : Nat) : List Json → String
  | [] => ""
  | [j] => newLine depth ++ prettyAt depth j
  | j :: js => newLine depth ++ prettyAt depth j ++ "," ++ prettyItems depth js

/-- Members on lines of their own. -/
def prettyMembers (depth : Nat) : List (List Letter × Json) → String
  | [] => ""
  | [(key, j)] => newLine depth ++ quote key ++ ": " ++ prettyAt depth j
  | (key, j) :: rest =>
    newLine depth ++ quote key ++ ": " ++ prettyAt depth j ++ "," ++ prettyMembers depth rest

end

/-- A value with a line for each part. -/
def pretty (j : Json) : String := prettyAt 0 j

end IntegrationFlow.Json
