import QuestionBoard.Proofs.Text.Points

/-!
Halves side by side. A writer and a reader of UTF-16 units make one character of a high half and a low one
that stand right after one another; a text in which no two stand so comes back as it was.
-/

namespace QuestionBoard

namespace Half

theorem code_bounds (h : Half) : 0xD800 ≤ h.code ∧ h.code < 0xE000 := by
  have hoffset := h.offset.isLt
  rw [code]
  omega

@[simp] theorem ofCode?_code (h : Half) : ofCode? h.code = some h := by
  rw [ofCode?, dif_pos h.code_bounds]
  obtain ⟨⟨offset, hoffset⟩⟩ := h
  simp [code]

/-- No character has the code of a half. -/
@[simp] theorem ofCode?_toNat (c : Char) : ofCode? c.toNat = none := by
  have hvalid : c.toNat < 0xD800 ∨ 0xDFFF < c.toNat ∧ c.toNat < 0x110000 := c.valid
  exact dif_neg (by omega)

theorem exists_ofCode? {n : Nat} (h : 0xD800 ≤ n ∧ n < 0xE000) : ∃ half, ofCode? n = some half ∧ half.code = n := by
  refine ⟨_, dif_pos h, ?_⟩
  exact Nat.add_sub_cancel' h.1

theorem isHigh_iff {h : Half} : h.isHigh = true ↔ h.code < 0xDC00 := by
  rw [isHigh, decide_eq_true_iff, code]
  omega

/-- A first half is no second one. -/
theorem joined?_of_low {high low : Half} (h : low.code < 0xDC00) : high.joined? low = none := by
  rw [joined?, isHigh_iff.mpr h, Bool.not_true, Bool.and_false]
  rfl

theorem joined?_eq {high low : Half} (hhigh : high.code < 0xDC00) (hlow : 0xDC00 ≤ low.code) :
    high.joined? low = some (Char.ofNat (0x10000 + (high.code - 0xD800) * 0x400 + (low.code - 0xDC00))) := by
  have hfirst : low.isHigh = false := by
    rw [Bool.eq_false_iff, ne_eq, isHigh_iff]
    omega
  have hsum : 0x10000 + high.offset.val * 0x400 + (low.offset.val - 0x400) =
      0x10000 + (high.code - 0xD800) * 0x400 + (low.code - 0xDC00) := by
    rw [code] at hlow
    rw [code, code]
    omega
  rw [joined?, isHigh_iff.mpr hhigh, hfirst, hsum]
  rfl

end Half

namespace Text

/-- Whether no two halves that stand side by side make a character. -/
def Separated (t : Text) : Prop :=
  ∀ before high low after, t.points = before ++ .half high :: .half low :: after → high.joined? low = none

theorem length_joinedPoints_le (ps : List CodePoint) : (joinedPoints ps).length ≤ ps.length := by
  fun_induction joinedPoints ps with
  | case1 high low rest c hjoined ih =>
      simp only [List.length_cons]
      omega
  | case2 high low rest hjoined ih => simpa using ih
  | case3 p rest hfirst ih => simpa using ih
  | case4 => exact Nat.le_refl _

/-- Joining leaves points alone just when there is nothing to join. -/
theorem joinedPoints_eq_self_iff (ps : List CodePoint) : joinedPoints ps = ps ↔
    ∀ before high low after, ps = before ++ .half high :: .half low :: after → high.joined? low = none := by
  -- What is joined further on is joined behind a point as well.
  have hcons : ∀ {p : CodePoint} {rest : List CodePoint},
      (∀ high low after, p :: rest = .half high :: .half low :: after → high.joined? low = none) →
      ((∀ before high low after, p :: rest = before ++ .half high :: .half low :: after →
          high.joined? low = none) ↔
        ∀ before high low after, rest = before ++ .half high :: .half low :: after →
          high.joined? low = none) := by
    intro p rest hfirst
    constructor
    · intro h before high low after hrest
      exact h (p :: before) high low after (congrArg (p :: ·) hrest)
    · intro h before high low after hsplit
      cases before with
      | nil => exact hfirst high low after hsplit
      | cons q before => exact h before high low after (List.cons.inj hsplit).2
  fun_induction joinedPoints ps with
  | case1 high low rest c hjoined ih =>
      constructor
      · intro h
        have hlength := congrArg List.length h
        have hle := length_joinedPoints_le rest
        simp only [List.length_cons] at hlength
        omega
      · intro h
        have hnone := h [] high low rest rfl
        rw [hjoined] at hnone
        cases hnone
  | case2 high low rest hjoined ih =>
      rw [List.cons.injEq, hcons]
      · simpa using ih
      · rintro high' low' after ⟨⟩
        exact hjoined
  | case3 p rest hfirst ih =>
      rw [List.cons.injEq, hcons]
      · simpa using ih
      · rintro high low after ⟨⟩
        exact absurd rfl (hfirst high low after rfl)
  | case4 => simp

/-- A text comes back as it was just when no two halves in it make a character. -/
theorem paired_eq_self_iff {t : Text} : t.paired = t ↔ t.Separated := by
  rw [Separated, ← joinedPoints_eq_self_iff, paired]
  constructor
  · intro h
    have hpoints := congrArg points h
    rwa [points_ofPoints] at hpoints
  · intro h
    rw [h, ofPoints_points]

/-- A text without halves is separated. -/
theorem separated_plain (s : String) : (plain s).Separated := by
  intro before high low after hsplit
  have hmem : CodePoint.half high ∈ (plain s).points := by simp [hsplit]
  simp at hmem

@[simp] theorem paired_plain (s : String) : (plain s).paired = plain s :=
  paired_eq_self_iff.mpr (separated_plain s)

end Text

end QuestionBoard
