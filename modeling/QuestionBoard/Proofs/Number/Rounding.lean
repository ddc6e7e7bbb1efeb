import Mathlib.Data.Int.Log
import Mathlib.Data.Rat.Floor
import Mathlib.Tactic.Linarith
import QuestionBoard.Proofs.Number.Exact

/-!
Rounding as a function of rational numbers. What `ofRatio` makes of a ratio depends on its value alone:
`nearest`, the nearest of the numbers with 53 binary digits, with ties going to the even one.
-/

namespace QuestionBoard

/-- The whole number nearest to a rational one, a tie going to the even one. -/
def roundEven (x : ℚ) : ℤ := if Even ⌊x⌋ then ⌈x - 1 / 2⌉ else ⌊x + 1 / 2⌋

section WholeNumbers

variable {x : ℚ} {z : ℤ}

theorem roundEven_eq_of_lt (hlow : (z : ℚ) - 1 / 2 < x) (hhigh : x < z + 1 / 2) : roundEven x = z := by
  rw [roundEven]
  split
  · rw [Int.ceil_eq_iff]
    constructor <;> linarith
  · rw [Int.floor_eq_iff]
    constructor <;> linarith

theorem roundEven_eq_of_even (hz : Even z) (hlow : (z : ℚ) - 1 / 2 ≤ x) (hhigh : x ≤ z + 1 / 2) :
    roundEven x = z := by
  rw [roundEven]
  split
  · next heven =>
      rw [Int.ceil_eq_iff]
      refine ⟨?_, by linarith⟩
      -- Otherwise the whole part would be the odd number before.
      rcases hlow.lt_or_eq with hlow | hlow
      · linarith
      · have hfloor : ⌊x⌋ = z - 1 := by
          rw [Int.floor_eq_iff]
          push_cast
          constructor <;> linarith
        rw [hfloor] at heven
        exact absurd heven (Int.not_even_iff_odd.mpr (hz.sub_odd odd_one))
  · next hodd =>
      rw [Int.floor_eq_iff]
      refine ⟨by linarith, ?_⟩
      rcases hhigh.lt_or_eq with hhigh | hhigh
      · linarith
      · have hfloor : ⌊x⌋ = z := by
          rw [Int.floor_eq_iff]
          constructor <;> linarith
        exact absurd (hfloor ▸ hz) hodd

variable (x) in
theorem abs_sub_roundEven_le : |x - roundEven x| ≤ 1 / 2 := by
  rw [roundEven]
  split
  · have hlow := Int.le_ceil (x - 1 / 2)
    have hhigh := Int.ceil_lt_add_one (x - 1 / 2)
    rw [abs_le]
    constructor <;> linarith
  · have hlow := Int.floor_le (x + 1 / 2)
    have hhigh := Int.lt_floor_add_one (x + 1 / 2)
    rw [abs_le]
    constructor <;> linarith

theorem le_roundEven (h : (z : ℚ) ≤ x) : z ≤ roundEven x := by
  obtain ⟨-, hhigh⟩ := abs_le.mp (abs_sub_roundEven_le x)
  have hlt : (z : ℚ) < roundEven x + 1 := by linarith
  exact Int.lt_add_one_iff.mp (mod_cast hlt)

theorem roundEven_le (h : x ≤ z) : roundEven x ≤ z := by
  obtain ⟨hlow, -⟩ := abs_le.mp (abs_sub_roundEven_le x)
  have hlt : (roundEven x : ℚ) < z + 1 := by linarith
  exact Int.lt_add_one_iff.mp (mod_cast hlt)

theorem roundHalfEven_eq (n : Nat) {d : Nat} (hd : 0 < d) :
    (roundHalfEven n d : ℤ) = roundEven (n / d) := by
  have hpos : (0 : ℚ) < d := Nat.cast_pos.mpr hd
  have hlt : n % d < d := Nat.mod_lt n hd
  have hmod : n / d * d + n % d = n := Nat.div_add_mod' n d
  simp only [roundHalfEven]
  generalize n / d = q at hmod ⊢
  generalize n % d = r at hlt hmod ⊢
  have hsplit : (n : ℚ) / d = q + r / d := by
    rw [← hmod, Nat.cast_add, Nat.cast_mul, add_div, mul_div_cancel_right₀ _ hpos.ne']
  have hless : (r : ℚ) / d < 1 / 2 ↔ 2 * r < d := by
    rw [div_lt_div_iff₀ hpos two_pos, one_mul, mul_comm]
    exact mod_cast Iff.rfl
  have hmore : 1 / 2 < (r : ℚ) / d ↔ d < 2 * r := by
    rw [div_lt_div_iff₀ two_pos hpos, one_mul, mul_comm (r : ℚ)]
    exact mod_cast Iff.rfl
  have hrest : (0 : ℚ) ≤ r / d := by positivity
  have hrest' : (r : ℚ) / d < 1 := (div_lt_one hpos).mpr (mod_cast hlt)
  simp only [hsplit, ← hless, ← hmore]
  split
  · exact (roundEven_eq_of_lt (by push_cast; linarith) (by push_cast; linarith)).symm
  · split
    · exact (roundEven_eq_of_lt (by push_cast; linarith) (by push_cast; linarith)).symm
    · split
      · next heven =>
          have heven' : Even (q : ℤ) := mod_cast Nat.even_iff.mpr heven
          exact (roundEven_eq_of_even heven' (by push_cast; linarith) (by push_cast; linarith)).symm
      · next hodd =>
          have heven : Even ((q + 1 : Nat) : ℤ) := by
            rw [Int.even_coe_nat, Nat.even_iff]
            omega
          exact (roundEven_eq_of_even heven (by push_cast; linarith) (by push_cast; linarith)).symm

theorem roundHalfEven_eq_of_lt {b d z : Nat} (hlow : 2 * (z * d) < 2 * b + d) (hhigh : 2 * b < 2 * (z * d) + d) :
    roundHalfEven b d = z := by
  have hd : 0 < d := by omega
  have hpos : (0 : ℚ) < d := Nat.cast_pos.mpr hd
  have hlow' : 2 * (z * d : ℚ) < 2 * b + d := mod_cast hlow
  have hhigh' : 2 * (b : ℚ) < 2 * (z * d) + d := mod_cast hhigh
  have hround : (roundHalfEven b d : ℤ) = z := by
    rw [roundHalfEven_eq b hd]
    apply roundEven_eq_of_lt
    · rw [lt_div_iff₀ hpos, Int.cast_natCast]
      linarith
    · rw [div_lt_iff₀ hpos, Int.cast_natCast]
      linarith
  exact_mod_cast hround

theorem roundHalfEven_eq_of_even {b d z : Nat} (hd : 0 < d) (hz : Even z) (hlow : 2 * (z * d) ≤ 2 * b + d)
    (hhigh : 2 * b ≤ 2 * (z * d) + d) : roundHalfEven b d = z := by
  have hpos : (0 : ℚ) < d := Nat.cast_pos.mpr hd
  have hlow' : 2 * (z * d : ℚ) ≤ 2 * b + d := mod_cast hlow
  have hhigh' : 2 * (b : ℚ) ≤ 2 * (z * d) + d := mod_cast hhigh
  have hround : (roundHalfEven b d : ℤ) = z := by
    rw [roundHalfEven_eq b hd]
    apply roundEven_eq_of_even (mod_cast hz)
    · rw [le_div_iff₀ hpos, Int.cast_natCast]
      linarith
    · rw [div_le_iff₀ hpos, Int.cast_natCast]
      linarith
  exact_mod_cast hround

theorem roundHalfEven_bounds (b d : Nat) : b / d ≤ roundHalfEven b d ∧ roundHalfEven b d ≤ b / d + 1 := by
  simp only [roundHalfEven]
  split_ifs <;> omega

end WholeNumbers

namespace Binary64

/-- How far apart the numbers with 53 binary digits are around a positive one. -/
def spacing (x : ℚ) : ℚ := 2 ^ (Int.log 2 x - 52)

/-- The number with 53 binary digits that is nearest to a positive one, a tie going to the even one. -/
def nearest (x : ℚ) : ℚ := roundEven (x / spacing x) * spacing x

section Nearest

variable {x : ℚ}

variable (x) in
theorem spacing_pos : 0 < spacing x := zpow_pos two_pos _

theorem log_spec (hx : 0 < x) : (2 : ℚ) ^ Int.log 2 x ≤ x ∧ x < 2 ^ (Int.log 2 x + 1) :=
  ⟨mod_cast Int.zpow_log_le_self one_lt_two hx, mod_cast Int.lt_zpow_succ_log_self one_lt_two x⟩

theorem le_log_iff (hx : 0 < x) {k : ℤ} : k ≤ Int.log 2 x ↔ 2 ^ k ≤ x :=
  mod_cast (Int.zpow_le_iff_le_log one_lt_two hx).symm

theorem log_lt_iff (hx : 0 < x) {k : ℤ} : Int.log 2 x < k ↔ x < 2 ^ k :=
  mod_cast (Int.lt_zpow_iff_log_lt one_lt_two hx).symm

theorem log_eq_iff (hx : 0 < x) {k : ℤ} : Int.log 2 x = k ↔ (2 : ℚ) ^ k ≤ x ∧ x < 2 ^ (k + 1) := by
  rw [← le_log_iff hx, ← log_lt_iff hx]
  omega

/-- In units of the last place a number has 53 binary digits. -/
theorem div_spacing_spec (hx : 0 < x) : 2 ^ 52 ≤ x / spacing x ∧ x / spacing x < 2 ^ 53 := by
  obtain ⟨hlow, hhigh⟩ := log_spec hx
  rw [le_div_iff₀ (spacing_pos x), div_lt_iff₀ (spacing_pos x), spacing, ← zpow_natCast, ← zpow_natCast,
    ← zpow_add₀ two_ne_zero, ← zpow_add₀ two_ne_zero]
  have hlow' : ((52 : ℕ) : ℤ) + (Int.log 2 x - 52) = Int.log 2 x := by omega
  have hhigh' : ((53 : ℕ) : ℤ) + (Int.log 2 x - 52) = Int.log 2 x + 1 := by omega
  rw [hlow', hhigh']
  exact ⟨hlow, hhigh⟩

theorem spacing_mul_zpow {k : ℤ} (hlow : 2 ^ 52 ≤ x) (hhigh : x < 2 ^ 53) : spacing (x * 2 ^ k) = 2 ^ k := by
  have hpow : (0 : ℚ) < 2 ^ k := zpow_pos two_pos _
  have hlog : Int.log 2 (x * 2 ^ k) = 52 + k := by
    rw [log_eq_iff (mul_pos (lt_of_lt_of_le (by positivity) hlow) hpow), add_right_comm,
      zpow_add₀ two_ne_zero, zpow_add₀ two_ne_zero]
    exact ⟨mul_le_mul_of_nonneg_right (mod_cast hlow) hpow.le,
      mul_lt_mul_of_pos_right (mod_cast hhigh) hpow⟩
  rw [spacing, hlog, add_sub_cancel_left]

theorem nearest_mul_zpow {k : ℤ} (hlow : 2 ^ 52 ≤ x) (hhigh : x < 2 ^ 53) :
    nearest (x * 2 ^ k) = roundEven x * 2 ^ k := by
  rw [nearest, spacing_mul_zpow hlow hhigh, mul_div_cancel_right₀ _ (zpow_ne_zero k two_ne_zero)]

theorem spacing_le {k : ℤ} (hx : 0 < x) (h : x < 2 ^ (k + 53)) : spacing x ≤ 2 ^ k := by
  have hlog : Int.log 2 x < k + 53 := (log_lt_iff hx).mpr h
  exact zpow_le_zpow_right₀ one_le_two (by omega)

variable (x) in
theorem abs_sub_nearest_le : |x - nearest x| ≤ spacing x / 2 := by
  have hpos := spacing_pos x
  have hsplit : x - nearest x = (x / spacing x - roundEven (x / spacing x)) * spacing x := by
    rw [nearest, sub_mul, div_mul_cancel₀ _ hpos.ne']
  rw [hsplit, abs_mul, abs_of_pos hpos]
  have hle := mul_le_mul_of_nonneg_right (abs_sub_roundEven_le (x / spacing x)) hpos.le
  linarith

/-- A number with 53 binary digits is a whole number of the units of any number that is not below it. -/
theorem exists_mul_spacing {v : ℕ} {s : ℤ} (hv : v < 2 ^ 53) (hx : 0 < x) (h : x ≤ v * 2 ^ s) :
    ∃ z : ℤ, (v : ℚ) * 2 ^ s = z * spacing x := by
  have hlog : Int.log 2 x - 52 ≤ s := by
    have hlt : (2 : ℚ) ^ Int.log 2 x < 2 ^ (53 + s) :=
      calc (2 : ℚ) ^ Int.log 2 x ≤ v * 2 ^ s := (log_spec hx).1.trans h
        _ < 2 ^ (53 : ℕ) * 2 ^ s := by
            have : (v : ℚ) < 2 ^ 53 := mod_cast hv
            gcongr
        _ = 2 ^ (53 + s) := by rw [zpow_add₀ two_ne_zero]; rfl
    have := (zpow_lt_zpow_iff_right₀ one_lt_two).mp hlt
    omega
  refine ⟨v * 2 ^ (s - (Int.log 2 x - 52)).toNat, ?_⟩
  have hpow : (2 : ℚ) ^ (s - (Int.log 2 x - 52)).toNat * spacing x = 2 ^ s := by
    rw [spacing, ← zpow_natCast, Int.toNat_of_nonneg (by omega), ← zpow_add₀ two_ne_zero, sub_add_cancel]
  push_cast
  rw [mul_assoc, hpow]

theorem nearest_le {v : ℕ} {s : ℤ} (hv : v < 2 ^ 53) (hx : 0 < x) (h : x ≤ v * 2 ^ s) :
    nearest x ≤ v * 2 ^ s := by
  obtain ⟨z, hz⟩ := exists_mul_spacing hv hx h
  have hpos := spacing_pos x
  rw [hz] at h ⊢
  have hle : roundEven (x / spacing x) ≤ z := roundEven_le ((div_le_iff₀ hpos).mpr h)
  exact mul_le_mul_of_nonneg_right (mod_cast hle) hpos.le

theorem le_nearest {v : ℕ} {s : ℤ} (hv : v < 2 ^ 53) (hx : 0 < x) (h : v * 2 ^ s ≤ x) :
    v * 2 ^ s ≤ nearest x := by
  have hpos := spacing_pos x
  rcases le_or_gt (Int.log 2 x - 52) s with hs | hs
  · have hpow : (2 : ℚ) ^ (s - (Int.log 2 x - 52)).toNat * spacing x = 2 ^ s := by
      rw [spacing, ← zpow_natCast, Int.toNat_of_nonneg (by omega), ← zpow_add₀ two_ne_zero, sub_add_cancel]
    rw [← hpow, ← mul_assoc] at h ⊢
    have hle : (v * 2 ^ (s - (Int.log 2 x - 52)).toNat : ℤ) ≤ roundEven (x / spacing x) := by
      apply le_roundEven
      push_cast
      exact (le_div_iff₀ hpos).mpr h
    exact mul_le_mul_of_nonneg_right (mod_cast hle) hpos.le
  · -- Below the units of the number are only numbers with fewer digits than it has.
    have hle : (2 ^ 52 : ℤ) ≤ roundEven (x / spacing x) := by
      apply le_roundEven
      exact_mod_cast (div_spacing_spec hx).1
    calc (v : ℚ) * 2 ^ s ≤ 2 ^ (53 : ℕ) * 2 ^ (Int.log 2 x - 52 - 1) := by
          have : (v : ℚ) ≤ 2 ^ (53 : ℕ) := mod_cast hv.le
          have : (2 : ℚ) ^ s ≤ 2 ^ (Int.log 2 x - 52 - 1) := zpow_le_zpow_right₀ one_le_two (by omega)
          gcongr
      _ = 2 ^ (52 : ℕ) * spacing x := by
          rw [zpow_sub_one₀ two_ne_zero, spacing]
          ring
      _ ≤ nearest x := mul_le_mul_of_nonneg_right (mod_cast hle) hpos.le

theorem nearest_le_zpow {k : ℤ} (hx : 0 < x) (h : x ≤ 2 ^ k) : nearest x ≤ 2 ^ k := by
  simpa using nearest_le (v := 1) (by norm_num) hx (by simpa using h)

theorem zpow_le_nearest {k : ℤ} (hx : 0 < x) (h : 2 ^ k ≤ x) : 2 ^ k ≤ nearest x := by
  simpa using le_nearest (v := 1) (by norm_num) hx (by simpa using h)

theorem nearest_pos (hx : 0 < x) : 0 < nearest x := by
  have hle : (2 ^ 52 : ℤ) ≤ roundEven (x / spacing x) := by
    apply le_roundEven
    exact_mod_cast (div_spacing_spec hx).1
  have hpos : (0 : ℚ) < roundEven (x / spacing x) := by
    have : (0 : ℤ) < roundEven (x / spacing x) := by omega
    exact_mod_cast this
  exact mul_pos hpos (spacing_pos x)

end Nearest

/-! ### Ratios -/

theorem floorLog2_eq {n d : Nat} (hn : 0 < n) (hd : 0 < d) : floorLog2 n d = Int.log 2 ((n : ℚ) / d) := by
  have hpos : (0 : ℚ) < n / d := div_pos (Nat.cast_pos.mpr hn) (Nat.cast_pos.mpr hd)
  exact ((log_eq_iff hpos).mpr (floorLog2_spec hn hd)).symm

theorem roundHalfEven_scaled (n : Nat) {d : Nat} (hd : 0 < d) (e : Int) :
    (roundHalfEven (scaled n d e).1 (scaled n d e).2 : ℤ) = roundEven ((n : ℚ) / d / 2 ^ e) := by
  rw [roundHalfEven_eq _ (scaled_pos hd n e), scaled_div]

/-- What is made of a ratio depends on its value alone. -/
theorem ofRatio_congr (negative : Bool) {n d n' d' : Nat} (hn : 0 < n) (hd : 0 < d) (hd' : 0 < d')
    (h : (n : ℚ) / d = n' / d') : ofRatio negative n d = ofRatio negative n' d' := by
  have hn' : 0 < n' := by
    rw [div_eq_div_iff (Nat.cast_pos.mpr hd).ne' (Nat.cast_pos.mpr hd').ne'] at h
    have hcross : n * d' = n' * d := mod_cast h
    exact Nat.pos_of_mul_pos_right (hcross ▸ Nat.mul_pos hn hd')
  have hround : ∀ e, roundHalfEven (scaled n d e).1 (scaled n d e).2 =
      roundHalfEven (scaled n' d' e).1 (scaled n' d' e).2 := by
    intro e
    have hcast := (roundHalfEven_scaled n hd e).trans (h ▸ (roundHalfEven_scaled n' hd' e).symm)
    exact_mod_cast hcast
  simp only [ofRatio, if_neg hn.ne', if_neg hn'.ne', floorLog2_eq hn hd, floorLog2_eq hn' hd', h, hround]

/-- A ratio far from both ends of the format becomes the number nearest to it. -/
theorem exists_ofRatio_nearest (negative : Bool) {n d : Nat} (hn : 0 < n) (hd : 0 < d)
    (hlow : -1022 ≤ Int.log 2 ((n : ℚ) / d)) (hhigh : Int.log 2 ((n : ℚ) / d) < 1023) :
    ∃ m e admissible, ofRatio negative n d = finite negative m e admissible ∧
      (m : ℚ) * 2 ^ e = nearest (n / d) := by
  have hpos : (0 : ℚ) < n / d := div_pos (Nat.cast_pos.mpr hn) (Nat.cast_pos.mpr hd)
  obtain ⟨e, he⟩ : ∃ e, Int.log 2 ((n : ℚ) / d) - 52 = e := ⟨_, rfl⟩
  obtain ⟨m, hm⟩ : ∃ m, roundHalfEven (scaled n d e).1 (scaled n d e).2 = m := ⟨_, rfl⟩
  have hround : (m : ℤ) = roundEven ((n : ℚ) / d / spacing (n / d)) := by
    rw [← hm, roundHalfEven_scaled n hd e, spacing, he]
  have hnearest : (m : ℚ) * 2 ^ e = nearest (n / d) := by
    rw [nearest, ← hround, spacing, he, Int.cast_natCast]
  obtain ⟨hdigits, hdigits'⟩ := div_spacing_spec hpos
  have hnormal : 2 ^ 52 ≤ m := by
    have : (2 ^ 52 : ℤ) ≤ m := hround ▸ le_roundEven (mod_cast hdigits)
    exact_mod_cast this
  have hle : m ≤ 2 ^ 53 := by
    have : (m : ℤ) ≤ 2 ^ 53 := hround ▸ roundEven_le (mod_cast hdigits'.le)
    exact_mod_cast this
  have hmax : max (floorLog2 n d - 52) (-1074) = e := by
    rw [floorLog2_eq hn hd]
    omega
  simp only [ofRatio, if_neg hn.ne', hmax, hm]
  split
  · next hcarry =>
      have hadmissible : Admissible (Nat.pow 2 52) (e + 1) := ⟨by decide, by omega, by omega, Or.inl le_rfl⟩
      refine ⟨_, _, hadmissible, by rw [pack, dif_pos hadmissible], ?_⟩
      rw [← hnearest, hcarry, zpow_add_one₀ two_ne_zero]
      push_cast [Nat.pow_eq]
      ring
  · next hcarry =>
      have hadmissible : Admissible m e :=
        ⟨Nat.lt_of_le_of_ne hle hcarry, by omega, by omega, Or.inl hnormal⟩
      exact ⟨m, e, hadmissible, by rw [pack, dif_pos hadmissible], hnearest⟩

theorem exists_mul_nearest {m n : Nat} {e f : Int} (hm : Admissible m e) (hn : Admissible n f)
    (hpos : (0 : ℚ) < m * 2 ^ e * (n * 2 ^ f)) (hlow : -1022 ≤ Int.log 2 ((m : ℚ) * 2 ^ e * (n * 2 ^ f)))
    (hhigh : Int.log 2 ((m : ℚ) * 2 ^ e * (n * 2 ^ f)) < 1023) :
    ∃ k g admissible, finite false m e hm * finite false n f hn = finite false k g admissible ∧
      (k : ℚ) * 2 ^ g = nearest (m * 2 ^ e * (n * 2 ^ f)) := by
  have hdiv : (((magnitude m e).1 * (magnitude n f).1 : Nat) : ℚ) /
      ((magnitude m e).2 * (magnitude n f).2 : Nat) = m * 2 ^ e * (n * 2 ^ f) := by
    rw [Nat.cast_mul, Nat.cast_mul, mul_div_mul_comm, magnitude_div, magnitude_div]
  rw [← hdiv] at hpos hlow hhigh ⊢
  have hnum : 0 < (magnitude m e).1 * (magnitude n f).1 := by
    refine Nat.pos_of_ne_zero fun hzero => ?_
    rw [hzero, Nat.cast_zero, zero_div] at hpos
    exact absurd hpos (lt_irrefl 0)
  exact exists_ofRatio_nearest (false != false) hnum (Nat.mul_pos (magnitude_pos m e) (magnitude_pos n f))
    hlow hhigh

theorem truncate?_eq_floor {m : Nat} {e : Int} (h : Admissible m e) :
    (finite false m e h).truncate? = some ⌊(m : ℚ) * 2 ^ e⌋ := by
  rw [← magnitude_div, Rat.floor_natCast_div_natCast]
  rfl

end Binary64

end QuestionBoard
