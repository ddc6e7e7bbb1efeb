/-!
UTF-8. `encodeUtf8` writes text as bytes; `decodeUtf8Lossy` reads any bytes, every longest piece of
an ill-formed sequence that could begin a well-formed one, and every other stray byte, becoming one
replacement character.
-/

namespace QuestionBoard

/-- The character that stands for bytes that are not UTF-8. -/
def replacementCharacter : Char := '\uFFFD'

/-- The bytes of a character. -/
def encodeChar (c : Char) : List UInt8 :=
  let n := c.toNat
  if n < 0x80 then [n.toUInt8]
  else if n < 0x800 then [(0xC0 + n / 64).toUInt8, (0x80 + n % 64).toUInt8]
  else if n < 0x10000 then
    [(0xE0 + n / 4096).toUInt8, (0x80 + n / 64 % 64).toUInt8, (0x80 + n % 64).toUInt8]
  else
    [(0xF0 + n / 262144).toUInt8, (0x80 + n / 4096 % 64).toUInt8, (0x80 + n / 64 % 64).toUInt8,
      (0x80 + n % 64).toUInt8]

/-- The bytes of a text. -/
def encodeUtf8 (s : String) : List UInt8 := s.toList.flatMap encodeChar

/-- What a lead byte announces: the bits it holds, and the range of each byte that must follow. -/
structure LeadByte where
  bits : Nat
  following : List (Nat × Nat)

/-- The meaning of a byte at the start of a sequence; the ranges rule out every second spelling,
surrogates and codes beyond U+10FFFF. -/
def leadByte? (b : UInt8) : Option LeadByte :=
  let n := b.toNat
  let tail := (0x80, 0xBF)
  if n < 0x80 then some ⟨n, []⟩
  else if 0xC2 ≤ n ∧ n ≤ 0xDF then some ⟨n - 0xC0, [tail]⟩
  else if n = 0xE0 then some ⟨0, [(0xA0, 0xBF), tail]⟩
  else if n = 0xED then some ⟨0xD, [(0x80, 0x9F), tail]⟩
  else if 0xE1 ≤ n ∧ n ≤ 0xEF then some ⟨n - 0xE0, [tail, tail]⟩
  else if n = 0xF0 then some ⟨0, [(0x90, 0xBF), tail, tail]⟩
  else if 0xF1 ≤ n ∧ n ≤ 0xF3 then some ⟨n - 0xF0, [tail, tail, tail]⟩
  else if n = 0xF4 then some ⟨4, [(0x80, 0x8F), tail, tail]⟩
  else none

/-- Reads the bytes that must follow: the character and what is left, or what is left after the
longest piece that fits. -/
def followSequence (bits : Nat) : List (Nat × Nat) → List UInt8 → Option Char × List UInt8
  | [], rest => (some (Char.ofNat bits), rest)
  | _ :: _, [] => (none, [])
  | (low, high) :: ranges, b :: rest =>
    if low ≤ b.toNat ∧ b.toNat ≤ high then followSequence (bits * 64 + (b.toNat - 0x80)) ranges rest
    else (none, b :: rest)

theorem length_followSequence_le (bits : Nat) (ranges : List (Nat × Nat)) (bytes : List UInt8) :
    (followSequence bits ranges bytes).2.length ≤ bytes.length := by
  induction bytes generalizing bits ranges with
  | nil => cases ranges <;> simp [followSequence]
  | cons b rest ih =>
    match ranges with
    | [] => simp [followSequence]
    | (low, high) :: ranges =>
      simp only [followSequence]
      split
      · exact Nat.le_trans (ih _ _) (Nat.le_succ _)
      · simp

/-- Reads bytes as UTF-8, never failing. -/
def decodeCharsLossy : List UInt8 → List Char
  | [] => []
  | b :: rest =>
    match leadByte? b with
    | none => replacementCharacter :: decodeCharsLossy rest
    | some lead =>
      let next := followSequence lead.bits lead.following rest
      next.1.getD replacementCharacter :: decodeCharsLossy next.2
  termination_by bytes => bytes.length
  decreasing_by
    · simp
    · exact Nat.lt_succ_of_le (length_followSequence_le _ _ _)

/-- Reads bytes as UTF-8 text, ill-formed pieces becoming replacement characters. -/
def decodeUtf8Lossy (bytes : List UInt8) : String := String.ofList (decodeCharsLossy bytes)

end QuestionBoard
