import Mathlib.Tactic.SplitIfs
import QuestionBoard.Text.Utf8

/-!
UTF-8 is read back as it was written. The first byte of a character tells how many bytes follow and in
which range the next one is, and the bits that the bytes hold make up the character's number, so reading
the bytes of a character gives the character and what comes after them.
-/

namespace QuestionBoard

theorem toNat_toUInt8 {n : Nat} (h : n < 256) : n.toUInt8.toNat = n := by
  simpa using Nat.mod_eq_of_lt h

/-- A byte that must follow adds its six bits. -/
theorem followSequence_cons {bits low high n : Nat} (ranges : List (Nat × Nat)) (rest : List UInt8)
    (hlow : low ≤ 0x80 + n) (hhigh : 0x80 + n ≤ high) (hn : n < 64) :
    followSequence bits ((low, high) :: ranges) ((0x80 + n).toUInt8 :: rest) =
      followSequence (bits * 64 + n) ranges rest := by
  have hbyte : (0x80 + n).toUInt8.toNat = 0x80 + n := toNat_toUInt8 (by omega)
  rw [followSequence, hbyte, if_pos ⟨hlow, hhigh⟩, Nat.add_sub_cancel_left]

/-- A first byte and the bytes that it announces give a character. -/
theorem decodeCharsLossy_cons {b : UInt8} {bits : Nat} {ranges : List (Nat × Nat)} {c : Char}
    {bytes rest : List UInt8} (hlead : leadByte? b = some ⟨bits, ranges⟩)
    (hfollow : followSequence bits ranges bytes = (some c, rest)) :
    decodeCharsLossy (b :: bytes) = c :: decodeCharsLossy rest := by
  rw [decodeCharsLossy, hlead]
  simp only [hfollow, Option.getD_some]

/-! ### First bytes -/

theorem leadByte?_ascii {n : Nat} (h : n < 0x80) : leadByte? n.toUInt8 = some ⟨n, []⟩ := by
  have hbyte : n.toUInt8.toNat = n := toNat_toUInt8 (by omega)
  rw [leadByte?, hbyte, if_pos h]

theorem leadByte?_two {n : Nat} (hlow : 2 ≤ n) (hhigh : n < 32) :
    leadByte? (0xC0 + n).toUInt8 = some ⟨n, [(0x80, 0xBF)]⟩ := by
  have hbyte : (0xC0 + n).toUInt8.toNat = 0xC0 + n := toNat_toUInt8 (by omega)
  rw [leadByte?, hbyte, if_neg (by omega), if_pos (by omega), Nat.add_sub_cancel_left]

/-- The first of three bytes: after the least the next is not small, so that there is no second spelling,
and after one of them not great, because of the surrogates. -/
theorem leadByte?_three {n : Nat} (h : n < 16) : ∃ low high,
    leadByte? (0xE0 + n).toUInt8 = some ⟨n, [(low, high), (0x80, 0xBF)]⟩ ∧
      low ≤ (if n = 0 then 0xA0 else 0x80) ∧ (if n = 0xD then 0x9F else 0xBF) ≤ high := by
  have hbyte : (0xE0 + n).toUInt8.toNat = 0xE0 + n := toNat_toUInt8 (by omega)
  simp only [leadByte?, hbyte]
  by_cases hzero : n = 0
  · subst hzero
    exact ⟨_, _, rfl, Nat.le_refl _, Nat.le_refl _⟩
  · by_cases hsurrogate : n = 0xD
    · subst hsurrogate
      exact ⟨_, _, rfl, Nat.le_refl _, Nat.le_refl _⟩
    · refine ⟨0x80, 0xBF, ?_, by simp [hzero], by simp [hsurrogate]⟩
      rw [if_neg (by omega), if_neg (by omega), if_neg (by omega), if_neg (by omega),
        if_pos (by omega), Nat.add_sub_cancel_left]

/-- The first of four bytes: after the least the next is not small, after the greatest not great, since
there are no characters beyond the last. -/
theorem leadByte?_four {n : Nat} (h : n < 5) : ∃ low high,
    leadByte? (0xF0 + n).toUInt8 = some ⟨n, [(low, high), (0x80, 0xBF), (0x80, 0xBF)]⟩ ∧
      low ≤ (if n = 0 then 0x90 else 0x80) ∧ (if n = 4 then 0x8F else 0xBF) ≤ high := by
  match n, h with
  | 0, _ | 1, _ | 2, _ | 3, _ | 4, _ => exact ⟨_, _, rfl, Nat.le_refl _, Nat.le_refl _⟩

/-! ### Characters and texts -/

theorem decodeCharsLossy_encodeChar_append (c : Char) (rest : List UInt8) :
    decodeCharsLossy (encodeChar c ++ rest) = c :: decodeCharsLossy rest := by
  have hvalid : c.toNat < 0xD800 ∨ 0xDFFF < c.toNat ∧ c.toNat < 0x110000 := c.valid
  have hchar : Char.ofNat c.toNat = c := Char.ofNat_toNat c
  generalize hn : c.toNat = n at hvalid hchar
  simp only [encodeChar, hn]
  split_ifs with h₁ h₂ h₃ <;> simp only [List.cons_append, List.nil_append]
  · refine decodeCharsLossy_cons (leadByte?_ascii h₁) ?_
    rw [followSequence, hchar]
  · refine decodeCharsLossy_cons (leadByte?_two (by omega) (by omega)) ?_
    have hbits : n / 64 * 64 + n % 64 = n := by omega
    rw [followSequence_cons _ _ (by omega) (by omega) (by omega), hbits, followSequence,
      hchar]
  · obtain ⟨low, high, hlead, hlow, hhigh⟩ := leadByte?_three (n := n / 4096) (by omega)
    refine decodeCharsLossy_cons hlead ?_
    have hfirst : low ≤ 0x80 + n / 64 % 64 ∧ 0x80 + n / 64 % 64 ≤ high := by
      split_ifs at hlow hhigh <;> omega
    have hbits : (n / 4096 * 64 + n / 64 % 64) * 64 + n % 64 = n := by omega
    rw [followSequence_cons _ _ hfirst.1 hfirst.2 (by omega),
      followSequence_cons _ _ (by omega) (by omega) (by omega), hbits, followSequence, hchar]
  · obtain ⟨low, high, hlead, hlow, hhigh⟩ := leadByte?_four (n := n / 262144) (by omega)
    refine decodeCharsLossy_cons hlead ?_
    have hfirst : low ≤ 0x80 + n / 4096 % 64 ∧ 0x80 + n / 4096 % 64 ≤ high := by
      split_ifs at hlow hhigh <;> omega
    have hbits : ((n / 262144 * 64 + n / 4096 % 64) * 64 + n / 64 % 64) * 64 + n % 64 = n := by omega
    rw [followSequence_cons _ _ hfirst.1 hfirst.2 (by omega),
      followSequence_cons _ _ (by omega) (by omega) (by omega),
      followSequence_cons _ _ (by omega) (by omega) (by omega), hbits, followSequence, hchar]

theorem decodeCharsLossy_flatMap_encodeChar (chars : List Char) :
    decodeCharsLossy (chars.flatMap encodeChar) = chars := by
  induction chars with
  | nil => rw [List.flatMap_nil, decodeCharsLossy]
  | cons c chars ih => rw [List.flatMap_cons, decodeCharsLossy_encodeChar_append, ih]

/-- A text that was written as bytes is read back as it was. -/
theorem decodeUtf8Lossy_encodeUtf8 (s : String) : decodeUtf8Lossy (encodeUtf8 s) = s := by
  rw [decodeUtf8Lossy, encodeUtf8, decodeCharsLossy_flatMap_encodeChar, String.ofList_toList]

end QuestionBoard
