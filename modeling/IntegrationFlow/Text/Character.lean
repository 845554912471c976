import IntegrationFlow.Text.Table

/-!
# Character classes

Letters, numbers, case and white space over the whole of Unicode, and the lowercase mapping.
-/

namespace IntegrationFlow.Text

/-! ### Runs of code points -/

/-- Whether a code point lies in one of the ascending runs `(first, last)`. -/
def inRuns (runs : List (Nat × Nat)) (n : Nat) : Bool :=
  match runs.find? fun run => n ≤ run.2 with
  | some run => run.1 ≤ n
  | none => false

/-- Whether a code point lies on one of the ascending runs `(first, last, step)`. -/
def onRuns (runs : List (Nat × Nat × Nat)) (n : Nat) : Bool :=
  match runs.find? fun run => n ≤ run.2.1 with
  | some run => run.1 ≤ n && (n - run.1) % run.2.2 == 0
  | none => false

/-! ### Classes -/

/-- A letter or a number. -/
def isAlphanumeric (c : Char) : Bool := inRuns Table.alphanumericRuns c.toNat

/-- An uppercase character. -/
def isUppercase (c : Char) : Bool := onRuns Table.uppercaseRuns c.toNat

/-- A lowercase character. -/
def isLowercase (c : Char) : Bool := onRuns Table.lowercaseRuns c.toNat

/-- A character that has case: uppercase, lowercase or titlecase. -/
def isCased (c : Char) : Bool :=
  isUppercase c || isLowercase c || inRuns Table.titlecaseRuns c.toNat

/-- A character that does not count when looking for the cased neighbours of another. -/
def isCaseIgnorable (c : Char) : Bool := inRuns Table.caseIgnorableRuns c.toNat

/-- A white space character: the separators and the controls that leave a gap. -/
def isSpace (c : Char) : Bool :=
  inRuns
    [(0x9, 0xD), (0x20, 0x20), (0x85, 0x85), (0xA0, 0xA0), (0x1680, 0x1680), (0x2000, 0x200A),
     (0x2028, 0x2029), (0x202F, 0x202F), (0x205F, 0x205F), (0x3000, 0x3000)]
    c.toNat

/-! ### Lowercase -/

/-- The lowercase of one character. Only the dotted capital `İ` needs two characters. -/
def lowerChar (c : Char) : List Char :=
  if c.toNat = 0x130 then ['i', Char.ofNat 0x307]
  else
    match Table.lowercaseShifts.find? fun run => c.toNat ≤ run.2.1 with
    | some (first, _, step, shift) =>
      if first ≤ c.toNat && (c.toNat - first) % step == 0 then
        [Char.ofNat ((c.toNat : Int) + shift).toNat]
      else [c]
    | none => [c]

/-- Whether the nearest character that is not case-ignorable has case. -/
def nextIsCased (cs : List Char) : Bool :=
  match cs.find? fun c => !isCaseIgnorable c with
  | some c => isCased c
  | none => false

/-- The lowercase of the characters after `before`, which is kept nearest first. A capital sigma
that ends a word becomes the final form. -/
def lowerAfter (before : List Char) : List Char → List Char
  | [] => []
  | c :: cs =>
    (if c = 'Σ' && nextIsCased before && !nextIsCased cs then ['ς'] else lowerChar c) ++
      lowerAfter (c :: before) cs

/-- The lowercase of a text. -/
def lower (s : String) : String := String.ofList (lowerAfter [] s.toList)

end IntegrationFlow.Text
