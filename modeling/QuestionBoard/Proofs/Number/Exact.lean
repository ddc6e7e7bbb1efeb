import Mathlib.Algebra.Order.Field.Power
import Mathlib.Algebra.Order.Field.Rat
import Mathlib.Tactic.FieldSimp
import Mathlib.Tactic.Positivity
import Mathlib.Tactic.Ring
import QuestionBoard.Number.Binary64

/-!
Numbers that the format holds are not rounded. A ratio that is a whole multiple, with at most 53 binary
digits, of a power of two in the format's range is the value of the number that `ofRatio` makes of it:
the exponent that is chosen is at most the power's, so there is no remainder to be rounded.
-/

namespace QuestionBoard

namespace Binary64

/-! ### Fractions of whole numbers -/

theorem scaled_pos {d : Nat} (hd : 0 < d) (n : Nat) (e : Int) : 0 < (scaled n d e).2 := by
  unfold scaled
  split
  · exact Nat.mul_pos hd (Nat.two_pow_pos _)
  · exact hd

theorem scaled_div (n d : Nat) (e : Int) :
    ((scaled n d e).1 : ℚ) / (scaled n d e).2 = n / d / 2 ^ e := by
  unfold scaled
  split
  · next he =>
      have hpow : (2 : ℚ) ^ e = 2 ^ e.toNat := by
        rw [← zpow_natCast, Int.toNat_of_nonneg he]
      rw [hpow]
      push_cast [Nat.pow_eq]
      rw [div_div]
  · next he =>
      have hpow : (2 : ℚ) ^ e = (2 ^ (-e).toNat)⁻¹ := by
        rw [← zpow_natCast, Int.toNat_of_nonneg (by omega), zpow_neg, inv_inv]
      rw [hpow]
      push_cast [Nat.pow_eq]
      rw [div_inv_eq_mul, mul_div_right_comm]

theorem magnitude_pos (m : Nat) (e : Int) : 0 < (magnitude m e).2 := by
  unfold magnitude
  split
  · exact Nat.one_pos
  · exact Nat.two_pow_pos _

theorem magnitude_div (m : Nat) (e : Int) :
    ((magnitude m e).1 : ℚ) / (magnitude m e).2 = m * 2 ^ e := by
  unfold magnitude
  split
  · next he =>
      push_cast [Nat.pow_eq]
      rw [div_one, ← zpow_natCast, Int.toNat_of_nonneg he]
  · next he =>
      push_cast [Nat.pow_eq]
      rw [← zpow_natCast, Int.toNat_of_nonneg (by omega), zpow_neg, div_inv_eq_mul]

/-- The greatest power of two that a ratio reaches. -/
theorem floorLog2_spec {n d : Nat} (hn : 0 < n) (hd : 0 < d) :
    (2 : ℚ) ^ floorLog2 n d ≤ n / d ∧ (n : ℚ) / d < 2 ^ (floorLog2 n d + 1) := by
  have hd' : (0 : ℚ) < d := Nat.cast_pos.mpr hd
  have hlow : ((2 : ℚ) ^ n.log2) ≤ n := mod_cast Nat.log2_self_le hn.ne'
  have hhigh : (n : ℚ) < 2 ^ (n.log2 + 1) := mod_cast Nat.lt_log2_self
  have hlow' : ((2 : ℚ) ^ d.log2) ≤ d := mod_cast Nat.log2_self_le hd.ne'
  have hhigh' : (d : ℚ) < 2 ^ (d.log2 + 1) := mod_cast Nat.lt_log2_self
  -- The difference of the logarithms is the one that is wanted, or one more.
  have hbelow : (2 : ℚ) ^ ((n.log2 : Int) - d.log2 - 1) ≤ n / d :=
    calc (2 : ℚ) ^ ((n.log2 : Int) - d.log2 - 1) = 2 ^ n.log2 / 2 ^ (d.log2 + 1) := by
          rw [sub_sub, zpow_sub₀ two_ne_zero, zpow_natCast]
          norm_cast
      _ ≤ n / d := div_le_div₀ (Nat.cast_nonneg n) hlow hd' hhigh'.le
  have habove : (n : ℚ) / d < 2 ^ ((n.log2 : Int) - d.log2 + 1) :=
    calc (n : ℚ) / d < 2 ^ (n.log2 + 1) / 2 ^ d.log2 :=
          div_lt_div₀ hhigh hlow' (by positivity) (by positivity)
      _ = 2 ^ ((n.log2 : Int) - d.log2 + 1) := by
          rw [sub_add_eq_add_sub, zpow_sub₀ two_ne_zero, zpow_natCast]
          norm_cast
  have hscaled : (scaled n d ((n.log2 : Int) - d.log2)).2 ≤ (scaled n d ((n.log2 : Int) - d.log2)).1 ↔
      (2 : ℚ) ^ ((n.log2 : Int) - d.log2) ≤ n / d := by
    have hpos : (0 : ℚ) < (scaled n d ((n.log2 : Int) - d.log2)).2 :=
      Nat.cast_pos.mpr (scaled_pos hd n _)
    rw [← Nat.cast_le (α := ℚ), ← one_le_div hpos, scaled_div, one_le_div (by positivity)]
  simp only [floorLog2, hscaled]
  split
  · next h => exact ⟨h, habove⟩
  · next h =>
      rw [Int.sub_add_cancel]
      exact ⟨hbelow, not_le.mp h⟩

theorem roundHalfEven_mul (m : Nat) {d : Nat} (hd : 0 < d) : roundHalfEven (m * d) d = m := by
  simp only [roundHalfEven, Nat.mul_mod_left, Nat.mul_div_cancel m hd, Nat.mul_zero, if_pos hd]

/-- A ratio that the format holds is the value of the number that is made of it. -/
theorem exists_ofRatio_eq (negative : Bool) {n d v : Nat} {s : Int} (hn : 0 < n) (hd : 0 < d)
    (hv : v < 2 ^ 53) (hs : -1074 ≤ s) (hs' : s ≤ 971) (hratio : (n : ℚ) / d = v * 2 ^ s) :
    ∃ m e admissible, ofRatio negative n d = finite negative m e admissible ∧
      (m : ℚ) * 2 ^ e = n / d := by
  obtain ⟨hlow, hhigh⟩ := floorLog2_spec hn hd
  have hlog : floorLog2 n d < 53 + s := by
    have hbound : (2 : ℚ) ^ floorLog2 n d < 2 ^ (53 + s) :=
      calc (2 : ℚ) ^ floorLog2 n d ≤ v * 2 ^ s := hratio ▸ hlow
        _ < 2 ^ 53 * 2 ^ s := by
            have : (v : ℚ) < 2 ^ 53 := mod_cast hv
            gcongr
        _ = 2 ^ (53 + s) := by rw [zpow_add₀ two_ne_zero]; rfl
    exact (zpow_lt_zpow_iff_right₀ one_lt_two).mp hbound
  -- The exponent that is chosen is not above the power's, so the mantissa is whole.
  obtain ⟨e, he⟩ : ∃ e, max (floorLog2 n d - 52) (-1074) = e := ⟨_, rfl⟩
  have hes : e ≤ s := by omega
  obtain ⟨m, hm⟩ : ∃ m : Nat, (m : ℚ) * 2 ^ e = n / d := by
    refine ⟨v * 2 ^ (s - e).toNat, ?_⟩
    have hpow : (2 : ℚ) ^ (s - e).toNat * 2 ^ e = 2 ^ s := by
      rw [← zpow_natCast, Int.toNat_of_nonneg (by omega), ← zpow_add₀ two_ne_zero, sub_add_cancel]
    rw [hratio, Nat.cast_mul, Nat.cast_pow, Nat.cast_ofNat, mul_assoc, hpow]
  have hscaled : (scaled n d e).1 = m * (scaled n d e).2 := by
    have hpos : (0 : ℚ) < (scaled n d e).2 := Nat.cast_pos.mpr (scaled_pos hd n e)
    have hdiv := scaled_div n d e
    rw [← hm, mul_div_cancel_right₀ _ (by positivity), div_eq_iff hpos.ne'] at hdiv
    exact_mod_cast hdiv
  have hround : roundHalfEven (scaled n d e).1 (scaled n d e).2 = m := by
    rw [hscaled, roundHalfEven_mul m (scaled_pos hd n e)]
  have hlt : m < 2 ^ 53 := by
    have hbound : (m : ℚ) * 2 ^ e < 2 ^ 53 * 2 ^ e :=
      calc (m : ℚ) * 2 ^ e = n / d := hm
        _ < 2 ^ (floorLog2 n d + 1) := hhigh
        _ ≤ 2 ^ (53 + e) := zpow_le_zpow_right₀ one_le_two (by omega)
        _ = 2 ^ 53 * 2 ^ e := by rw [zpow_add₀ two_ne_zero]; rfl
    exact_mod_cast lt_of_mul_lt_mul_right hbound (by positivity)
  have hnormal : 2 ^ 52 ≤ m ∨ e = -1074 := by
    by_cases hmin : e = -1074
    · exact Or.inr hmin
    · left
      have hbound : (2 : ℚ) ^ 52 * 2 ^ e ≤ m * 2 ^ e :=
        calc (2 : ℚ) ^ 52 * 2 ^ e = 2 ^ (52 + e) := by rw [zpow_add₀ two_ne_zero]; rfl
          _ ≤ 2 ^ floorLog2 n d := zpow_le_zpow_right₀ one_le_two (by omega)
          _ ≤ m * 2 ^ e := hm ▸ hlow
      exact_mod_cast le_of_mul_le_mul_right hbound (by positivity)
  have hadmissible : Admissible m e := ⟨hlt, by omega, by omega, hnormal⟩
  refine ⟨m, e, hadmissible, ?_, hm⟩
  have hne : m ≠ Nat.pow 2 53 := hlt.ne
  simp only [ofRatio, if_neg hn.ne', he, hround, if_neg hne, pack, dif_pos hadmissible]

theorem exists_ofInt_eq {n : Nat} (hn : 0 < n) (h : n < 2 ^ 53) :
    ∃ m e admissible, ofInt n = finite false m e admissible ∧ (m : ℚ) * 2 ^ e = n := by
  obtain ⟨m, e, admissible, hround, hvalue⟩ := exists_ofRatio_eq false (s := 0) hn Nat.one_pos h
    (by omega) (by omega) (by rw [Nat.cast_one, div_one, zpow_zero, mul_one])
  refine ⟨m, e, admissible, ?_, by rw [hvalue, Nat.cast_one, div_one]⟩
  have hsign : decide ((n : Int) < 0) = false := decide_eq_false (by omega)
  rw [ofInt, hsign, Int.natAbs_natCast, hround]

/-- A product of positive numbers that the format holds is not rounded. -/
theorem exists_mul_eq {m n v : Nat} {e f s : Int} (hm : Admissible m e) (hn : Admissible n f)
    (hv : 0 < v) (hv' : v < 2 ^ 53) (hs : -1074 ≤ s) (hs' : s ≤ 971)
    (hproduct : (m : ℚ) * 2 ^ e * (n * 2 ^ f) = v * 2 ^ s) :
    ∃ k g admissible, finite false m e hm * finite false n f hn = finite false k g admissible ∧
      (k : ℚ) * 2 ^ g = v * 2 ^ s := by
  have hdiv : (((magnitude m e).1 * (magnitude n f).1 : Nat) : ℚ) /
      ((magnitude m e).2 * (magnitude n f).2 : Nat) = v * 2 ^ s := by
    rw [Nat.cast_mul, Nat.cast_mul, mul_div_mul_comm, magnitude_div, magnitude_div, hproduct]
  have hpos : 0 < (magnitude m e).1 * (magnitude n f).1 := by
    refine Nat.pos_of_ne_zero fun hzero => ?_
    rw [hzero, Nat.cast_zero, zero_div] at hdiv
    have : (0 : ℚ) < v * 2 ^ s := by positivity
    exact absurd hdiv this.ne
  obtain ⟨k, g, admissible, hround, hvalue⟩ := exists_ofRatio_eq (false != false) hpos
    (Nat.mul_pos (magnitude_pos m e) (magnitude_pos n f)) hv' hs hs' hdiv
  exact ⟨k, g, admissible, hround, hvalue.trans hdiv⟩

theorem truncate?_eq {m v : Nat} {e : Int} {h : Admissible m e} (hvalue : (m : ℚ) * 2 ^ e = v) :
    (finite false m e h).truncate? = some (v : Int) := by
  have hpos := magnitude_pos m e
  have hdiv := magnitude_div m e
  rw [hvalue, div_eq_iff (Nat.cast_pos.mpr hpos).ne'] at hdiv
  have hmul : (magnitude m e).1 = v * (magnitude m e).2 := by exact_mod_cast hdiv
  simp only [truncate?, hmul, Nat.mul_div_cancel v hpos, Bool.false_eq_true, if_false]

end Binary64

end QuestionBoard
