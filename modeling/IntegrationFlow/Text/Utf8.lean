import IntegrationFlow.Text.Basic

/-!
# Decoding UTF-8

Bytes are read as characters, one after the other, up to the first that cannot be.
-/

namespace IntegrationFlow.Text.Utf8

/-- Bytes that are no text: the characters before the fault, and how many bytes the fault spans.
That number is missing where the bytes end inside a character. -/
structure Error where
  valid : List Char
  width : Option Nat
  deriving DecidableEq, Repr

/-- The wording of an error. -/
def Error.message (e : Error) : String :=
  let index := toString (byteSize e.valid)
  match e.width with
  | some n => "invalid utf-8 sequence of " ++ toString n ++ " bytes from index " ++ index
  | none => "incomplete utf-8 byte sequence from index " ++ index

/-- Whether a byte continues a character. -/
def isTail (b : Nat) : Bool := 0x80 ≤ b && b ≤ 0xBF

/-- What the first byte of a character tells. -/
structure Lead where
  /-- The range of the second byte. -/
  low : Nat
  high : Nat
  /-- How many bytes follow the second. -/
  more : Nat
  /-- What the first byte adds to the number of the character. -/
  value : Nat

/-- What a byte tells as the first of several. -/
def lead? (b : Nat) : Option Lead :=
  if 0xC2 ≤ b ∧ b ≤ 0xDF then some ⟨0x80, 0xBF, 0, b - 0xC0⟩
  else if b = 0xE0 then some ⟨0xA0, 0xBF, 1, b - 0xE0⟩
  else if b = 0xED then some ⟨0x80, 0x9F, 1, b - 0xE0⟩
  else if 0xE1 ≤ b ∧ b ≤ 0xEF then some ⟨0x80, 0xBF, 1, b - 0xE0⟩
  else if b = 0xF0 then some ⟨0x90, 0xBF, 2, b - 0xF0⟩
  else if 0xF1 ≤ b ∧ b ≤ 0xF3 then some ⟨0x80, 0xBF, 2, b - 0xF0⟩
  else if b = 0xF4 then some ⟨0x80, 0x8F, 2, b - 0xF0⟩
  else none

/-- Reads `count` more bytes of a character of which `width` have been read. -/
def tails : (count width value : Nat) → List Nat → Except (Option Nat) (Nat × List Nat)
  | 0, _, value, bytes => .ok (value, bytes)
  | _ + 1, _, _, [] => .error none
  | count + 1, width, value, b :: bytes =>
    if isTail b then tails count (width + 1) (value * 64 + (b - 0x80)) bytes
    else .error (some width)

/-- What the bytes at the beginning of a text are: the number of a character with the bytes after
it, or a fault of some width. -/
def next : List Nat → Except (Option Nat) (Nat × List Nat)
  | [] => .error none
  | a :: bytes =>
    if a < 0x80 then .ok (a, bytes)
    else
      match lead? a, bytes with
      | none, _ => .error (some 1)
      | some _, [] => .error none
      | some lead, b :: bytes =>
        if lead.low ≤ b ∧ b ≤ lead.high then
          tails lead.more 2 (lead.value * 64 + (b - 0x80)) bytes
        else .error (some 1)

theorem length_le_of_tails {count width value n : Nat} {bytes rest : List Nat}
    (h : tails count width value bytes = .ok (n, rest)) : rest.length ≤ bytes.length := by
  induction count generalizing width value bytes with
  | zero => simp_all [tails]
  | succ count ih =>
    cases bytes with
    | nil => simp [tails] at h
    | cons b bytes =>
      rw [tails] at h
      split at h
      · have := ih h
        simp only [List.length_cons]
        omega
      · simp at h

/-- Reading a character leaves fewer bytes. -/
theorem length_lt_of_next {bytes rest : List Nat} {n : Nat} (h : next bytes = .ok (n, rest)) :
    rest.length < bytes.length := by
  unfold next at h
  split at h
  · simp at h
  · split at h
    · simp_all
    · split at h
      · simp at h
      · simp at h
      · split at h
        · have := length_le_of_tails h
          simp only [List.length_cons]
          omega
        · simp at h

/-- The characters of bytes, after the characters `before`, which are held last first. -/
def decodeFrom (before : List Char) (bytes : List Nat) : Except Error (List Char) :=
  if bytes.isEmpty then .ok before.reverse
  else
    match _ : next bytes with
    | .ok (n, rest) => decodeFrom (Char.ofNat n :: before) rest
    | .error width => .error ⟨before.reverse, width⟩
termination_by bytes.length
decreasing_by exact length_lt_of_next ‹_›

/-- The text that bytes stand for. -/
def decode (bytes : List UInt8) : Except Error String :=
  (decodeFrom [] (bytes.map UInt8.toNat)).map String.ofList

end IntegrationFlow.Text.Utf8
