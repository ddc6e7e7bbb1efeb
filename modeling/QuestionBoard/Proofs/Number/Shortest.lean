import QuestionBoard.Number.Decimal
import QuestionBoard.Proofs.Number.Rounding

/-!
The shortest digits of a number read back as the number. What decimal digits are read as depends only on
their value, so zeros at their end may be dropped, and a number of the format is written in one way only,
so digits with its exact value are read as the number itself.
-/

namespace QuestionBoard

namespace Binary64

theorem Admissible.unique {m m' : ℕ} {e e' : ℤ} (h : Admissible m e) (h' : Admissible m' e')
    (hvalue : (m : ℚ) * 2 ^ e = m' * 2 ^ e') : m = m' ∧ e = e' := by
  have hle : ∀ {m m' : ℕ} {e e' : ℤ}, Admissible m e → Admissible m' e' →
      (m : ℚ) * 2 ^ e = m' * 2 ^ e' → e' ≤ e := by
    intro m m' e e' h h' hvalue
    by_contra hlt
    -- The mantissa of the smaller exponent would have a digit too many.
    obtain ⟨hm, hlow, -⟩ := h
    obtain ⟨-, -, -, hnormal⟩ := h'
    have hnormal' : 2 ^ 52 ≤ m' := hnormal.resolve_right (by omega)
    have hmul : (m : ℚ) = m' * 2 ^ (e' - e) := by
      rw [zpow_sub₀ two_ne_zero, ← mul_div_assoc, ← hvalue, mul_div_cancel_right₀ _ (zpow_ne_zero e two_ne_zero)]
    have htwo : (2 : ℚ) ^ (1 : ℤ) ≤ 2 ^ (e' - e) := zpow_le_zpow_right₀ one_le_two (by omega)
    have hbound : (2 : ℚ) ^ 53 ≤ m := by
      calc (2 : ℚ) ^ 53 = (2 : ℚ) ^ 52 * (2 : ℚ) ^ (1 : ℤ) := by norm_num
        _ ≤ m' * (2 : ℚ) ^ (e' - e) := by
            have : (2 : ℚ) ^ 52 ≤ m' := mod_cast hnormal'
            gcongr
        _ = m := hmul.symm
    have hbound' : 2 ^ 53 ≤ m := mod_cast hbound
    exact absurd hm (not_lt.mpr hbound')
  obtain rfl : e = e' := le_antisymm (hle h' h hvalue.symm) (hle h h' hvalue)
  have hmul := mul_right_cancel₀ (zpow_ne_zero e two_ne_zero) hvalue
  exact ⟨mod_cast hmul, rfl⟩

/-! ### Signs -/

theorem neg_pack (negative : Bool) (m : ℕ) (e : ℤ) : (pack negative m e).neg = pack (!negative) m e := by
  unfold pack
  split_ifs <;> rfl

theorem neg_ofRatio (negative : Bool) (n d : ℕ) : (ofRatio negative n d).neg = ofRatio (!negative) n d := by
  simp only [ofRatio]
  split_ifs
  · rfl
  · exact neg_pack _ _ _
  · exact neg_pack _ _ _

theorem neg_ofDecimal (negative : Bool) (digits : ℕ) (e : ℤ) :
    (ofDecimal negative digits e).neg = ofDecimal (!negative) digits e := by
  simp only [ofDecimal]
  split_ifs
  · rfl
  · rfl
  · rfl
  · exact neg_ofRatio _ _ _
  · exact neg_ofRatio _ _ _

/-! ### Digits -/

/-- How many places before the point digits begin. -/
def decimalSize (digits : ℕ) (e : ℤ) : ℤ := (Nat.toDigits 10 digits).length + e

theorem exists_ofDecimal_eq (negative : Bool) {digits : ℕ} (hd : 0 < digits) (e : ℤ) : ∃ n d : ℕ, 0 < n ∧
    0 < d ∧ (n : ℚ) / d = digits * 10 ^ e ∧ ofDecimal negative digits e =
      if 400 < decimalSize digits e then .infinite negative
      else if decimalSize digits e < -400 then zero negative else ofRatio negative n d := by
  rcases le_or_gt 0 e with he | he
  · refine ⟨digits * 10 ^ e.toNat, 1, by positivity, one_pos, ?_, ?_⟩
    · rw [Nat.cast_one, div_one]
      push_cast
      rw [← zpow_natCast, Int.toNat_of_nonneg he]
    · simp only [ofDecimal, if_neg hd.ne', if_pos he, decimalSize]
      rfl
  · refine ⟨digits, 10 ^ (-e).toNat, hd, by positivity, ?_, ?_⟩
    · push_cast
      rw [← zpow_natCast, Int.toNat_of_nonneg (by omega), zpow_neg, div_inv_eq_mul]
    · simp only [ofDecimal, if_neg hd.ne', if_neg (not_le.mpr he), decimalSize]
      rfl

theorem length_toDigits_ten_mul {n : ℕ} (hn : 0 < n) :
    (Nat.toDigits 10 (10 * n)).length = (Nat.toDigits 10 n).length + 1 := by
  rw [Nat.toDigits_of_base_le (by decide) (by omega), Nat.mul_div_cancel_left n (by decide),
    List.length_append, List.length_singleton]

theorem ofDecimal_ten_mul (negative : Bool) (digits : ℕ) (e : ℤ) :
    ofDecimal negative (10 * digits) e = ofDecimal negative digits (e + 1) := by
  rcases Nat.eq_zero_or_pos digits with rfl | hd
  · simp [ofDecimal]
  · have hsize : decimalSize (10 * digits) e = decimalSize digits (e + 1) := by
      rw [decimalSize, length_toDigits_ten_mul hd, decimalSize]
      omega
    obtain ⟨n, d, hn, hd', hratio, hread⟩ := exists_ofDecimal_eq negative (Nat.mul_pos (by decide : 0 < 10) hd) e
    obtain ⟨n', d', -, hd'', hratio', hread'⟩ := exists_ofDecimal_eq negative hd (e + 1)
    have hsame : (n : ℚ) / d = n' / d' := by
      rw [hratio, hratio', zpow_add_one₀ (by norm_num)]
      push_cast
      ring
    rw [hread, hread', hsize, ofRatio_congr negative hn hd' hd'' hsame]

theorem ofDecimal_mul_pow (negative : Bool) (digits k : ℕ) (e : ℤ) :
    ofDecimal negative (digits * 10 ^ k) e = ofDecimal negative digits (e + k) := by
  induction k generalizing e with
  | zero => simp
  | succ k ih =>
      rw [pow_succ, ← mul_assoc, mul_comm, ofDecimal_ten_mul, ih, Nat.cast_succ, add_right_comm, add_assoc]

theorem Digits.readsAs_iff {c : Digits} {x : Binary64} :
    c.readsAs x = true ↔ ofDecimal false c.digits c.exponent = x := beq_iff_eq

theorem Digits.readsAs_trim {c : Digits} {x : Binary64} (fuel : ℕ) (h : c.readsAs x = true) :
    (c.trim fuel).readsAs x = true := by
  induction fuel generalizing c with
  | zero => exact h
  | succ fuel ih =>
      rw [Digits.trim]
      split
      · next hzero =>
          apply ih
          rw [Digits.readsAs_iff] at h ⊢
          have hten : 10 * (c.digits / 10) = c.digits := Nat.mul_div_cancel' (Nat.dvd_of_mod_eq_zero hzero.2)
          rwa [← ofDecimal_ten_mul, hten]
      · exact h

theorem readsAs_of_candidate? {x : Binary64} {n d count : ℕ} {c : Digits} (h : candidate? x n d count = some c) :
    c.readsAs x = true := by
  simp only [candidate?] at h
  split_ifs at h <;> cases h <;> assumption

theorem Digits.pos_of_readsAs {c : Digits} {m : ℕ} {e : ℤ} {h : Admissible m e} (hm : 0 < m)
    (hread : c.readsAs (.finite false m e h) = true) : 0 < c.digits := by
  refine Nat.pos_of_ne_zero fun hzero => ?_
  rw [Digits.readsAs_iff, ofDecimal, if_pos hzero, zero] at hread
  cases hread
  exact absurd hm (lt_irrefl 0)

/-! ### Values -/

theorem decimalSize_spec {digits : ℕ} (hd : 0 < digits) (e : ℤ) :
    (10 : ℚ) ^ (decimalSize digits e - 1) ≤ digits * 10 ^ e ∧
      (digits : ℚ) * 10 ^ e < 10 ^ decimalSize digits e := by
  have hten : (0 : ℚ) < 10 ^ e := by positivity
  have hne : (10 : ℚ) ≠ 0 := by norm_num
  have hpos : 0 < (Nat.toDigits 10 digits).length := Nat.length_toDigits_pos
  obtain ⟨k, hk⟩ : ∃ k, (Nat.toDigits 10 digits).length = k + 1 := ⟨_, (Nat.sub_add_cancel hpos).symm⟩
  have hhigh : digits < 10 ^ (k + 1) := (Nat.length_toDigits_le_iff (by decide) (by omega)).mp hk.le
  have hlow : 10 ^ k ≤ digits := by
    rcases Nat.eq_zero_or_pos k with rfl | hk'
    · exact hd
    · exact not_lt.mp fun hlt => by
        have := (Nat.length_toDigits_le_iff (b := 10) (by decide) hk').mpr hlt
        omega
  have hsize : decimalSize digits e = ((k + 1 : ℕ) : ℤ) + e := by rw [decimalSize, hk]
  have hbefore : ((k + 1 : ℕ) : ℤ) + e - 1 = (k : ℤ) + e := by omega
  rw [hsize, hbefore, zpow_add₀ hne, zpow_add₀ hne, zpow_natCast, zpow_natCast]
  exact ⟨mul_le_mul_of_nonneg_right (mod_cast hlow) hten.le, mul_lt_mul_of_pos_right (mod_cast hhigh) hten⟩

theorem zpow_two_le_zpow_ten (k : ℕ) :
    (2 : ℚ) ^ (3 * k : ℤ) ≤ 10 ^ (k : ℤ) ∧ (10 : ℚ) ^ (-k : ℤ) ≤ 2 ^ (-(3 * k) : ℤ) := by
  have hle : (2 : ℚ) ^ (3 * k : ℤ) ≤ 10 ^ (k : ℤ) := by
    rw [zpow_mul, zpow_natCast, zpow_natCast]
    exact pow_le_pow_left₀ (by norm_num) (by norm_num) k
  refine ⟨hle, ?_⟩
  rw [zpow_neg, zpow_neg]
  exact inv_anti₀ (by positivity) hle

/-- A number of the format begins at most 400 places before or after the point. -/
theorem decimalSize_of_value {m digits : ℕ} {e exponent : ℤ} (h : Admissible m e) (hd : 0 < digits)
    (hvalue : (digits : ℚ) * 10 ^ exponent = m * 2 ^ e) :
    -400 ≤ decimalSize digits exponent ∧ decimalSize digits exponent ≤ 400 := by
  obtain ⟨hlow, hhigh⟩ := decimalSize_spec hd exponent
  rw [hvalue] at hlow hhigh
  have hm : 0 < m := by
    refine Nat.pos_of_ne_zero fun hzero => ?_
    rw [hzero, Nat.cast_zero, zero_mul] at hvalue
    have : (0 : ℚ) < digits * 10 ^ exponent := by positivity
    exact absurd hvalue this.ne'
  obtain ⟨hten, hten'⟩ := zpow_two_le_zpow_ten 400
  rw [Nat.cast_ofNat] at hten hten'
  constructor
  · have hlt : (10 : ℚ) ^ (-400 : ℤ) < 10 ^ decimalSize digits exponent :=
      calc (10 : ℚ) ^ (-400 : ℤ) ≤ 2 ^ (-(3 * 400) : ℤ) := hten'
        _ ≤ 2 ^ e := zpow_le_zpow_right₀ one_le_two (by have := h.2.1; omega)
        _ ≤ m * 2 ^ e := le_mul_of_one_le_left (by positivity) (mod_cast hm)
        _ < 10 ^ decimalSize digits exponent := hhigh
    exact ((zpow_lt_zpow_iff_right₀ (by norm_num)).mp hlt).le
  · have hlt : (10 : ℚ) ^ (decimalSize digits exponent - 1) < 10 ^ (400 : ℤ) :=
      calc (10 : ℚ) ^ (decimalSize digits exponent - 1) ≤ m * 2 ^ e := hlow
        _ < 2 ^ (53 : ℤ) * 2 ^ e := by
            refine mul_lt_mul_of_pos_right ?_ (by positivity)
            have hm' : (m : ℚ) < 2 ^ (53 : ℕ) := mod_cast h.1
            exact hm'
        _ = 2 ^ (53 + e) := (zpow_add₀ two_ne_zero _ _).symm
        _ ≤ 2 ^ (3 * 400 : ℤ) := zpow_le_zpow_right₀ one_le_two (by have := h.2.2.1; omega)
        _ ≤ 10 ^ (400 : ℤ) := hten
    have := (zpow_lt_zpow_iff_right₀ (by norm_num)).mp hlt
    omega

/-- Digits that have the value of a number of the format read as the number. -/
theorem Digits.readsAs_of_value {m digits : ℕ} {e exponent : ℤ} (h : Admissible m e) (hd : 0 < digits)
    (hvalue : (digits : ℚ) * 10 ^ exponent = m * 2 ^ e) :
    (⟨digits, exponent⟩ : Digits).readsAs (.finite false m e h) = true := by
  obtain ⟨hlow, hhigh⟩ := decimalSize_of_value h hd hvalue
  obtain ⟨n, d, hn, hd', hratio, hread⟩ := exists_ofDecimal_eq false hd exponent
  obtain ⟨m', e', h', hround, hvalue'⟩ := exists_ofRatio_eq false hn hd' h.1 h.2.1 h.2.2.1
    (hratio.trans hvalue)
  obtain ⟨rfl, rfl⟩ := h'.unique h (hvalue'.trans (hratio.trans hvalue))
  rw [Digits.readsAs_iff, hread, if_neg (by omega), if_neg (by omega), hround]

/-- A number is a whole number of units of any place that is far enough behind the point. -/
theorem exact_value (m : ℕ) {e : ℤ} {p k : ℕ} (hp : p = Nat.pow 10 k) (hk : -(k : ℤ) ≤ e) :
    (((magnitude m e).1 * (p / (magnitude m e).2) : ℕ) : ℚ) * 10 ^ (-(k : ℤ)) = m * 2 ^ e := by
  subst hp
  have hdvd : (magnitude m e).2 ∣ Nat.pow 10 k := by
    unfold magnitude
    split
    · exact one_dvd _
    · have htwo : 2 ^ (-e).toNat ∣ 2 ^ k := pow_dvd_pow 2 (by omega)
      exact htwo.trans (pow_dvd_pow_of_dvd (by decide) k)
  obtain ⟨q, hq⟩ := hdvd
  have hpos := magnitude_pos m e
  have hpos' : ((magnitude m e).2 : ℚ) ≠ 0 := (Nat.cast_pos.mpr hpos).ne'
  have hpow : (10 : ℚ) ^ k = (magnitude m e).2 * q := mod_cast hq
  rw [← magnitude_div, hq, Nat.mul_div_cancel_left q hpos, zpow_neg, zpow_natCast, hpow, Nat.cast_mul,
    mul_inv, mul_mul_mul_comm]
  have hq' : (q : ℚ) ≠ 0 := by
    rintro hzero
    rw [hzero, mul_zero] at hpow
    exact absurd hpow (by positivity)
  field_simp

theorem readsAs_shortest {m : ℕ} {e : ℤ} (h : Admissible m e) (hm : 0 < m) :
    (shortest (.finite false m e h) m e).readsAs (.finite false m e h) = true := by
  simp only [shortest]
  apply Digits.readsAs_trim
  cases hfound : (List.range 17).findSome? fun i =>
      candidate? (.finite false m e h) (magnitude m e).1 (magnitude m e).2 (i + 1) with
  | some c =>
      obtain ⟨i, -, hcandidate⟩ := List.exists_of_findSome?_eq_some hfound
      exact readsAs_of_candidate? hcandidate
  | none =>
      obtain ⟨p, hp⟩ : ∃ p, p = Nat.pow 10 1074 := ⟨_, rfl⟩
      have hvalue := exact_value m hp h.2.1
      rw [Nat.cast_ofNat] at hvalue
      rw [Option.getD_none, ← hp]
      refine Digits.readsAs_of_value h (Nat.pos_of_ne_zero fun hzero => ?_) hvalue
      rw [hzero, Nat.cast_zero, zero_mul] at hvalue
      exact absurd hvalue.symm (by positivity)

end Binary64

end QuestionBoard
