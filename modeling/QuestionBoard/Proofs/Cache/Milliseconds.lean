import QuestionBoard.Proofs.Cache.Encoding
import QuestionBoard.Proofs.Number.Rounding

/-!
The milliseconds that are sent for a duration. The seconds are rounded to a binary64 number, the product
with a thousand is rounded again, and the fraction is dropped, so a whole number of milliseconds comes out
one less when the seconds are rounded down too far for the second rounding to make up for it.
-/

namespace QuestionBoard

open Binary64

def Duration.maxMicroseconds : ℕ := 86399999999999999999

namespace RemoteCache

/-- What comes out for a number of microseconds before the fraction is dropped. -/
def roundedMilliseconds (u : ℕ) : ℚ := nearest (1000 * nearest (u / 1000000))

/-- Whether a number of milliseconds falls short: the remainder that is lost when the seconds are rounded
down is more than half of a unit of the product. -/
def FallsShort (n : ℕ) : Prop :=
  ∃ k, 1000 * 2 ^ 52 ≤ n * 2 ^ k ∧ n * 2 ^ k < 2 ^ 62 ∧ 256 < n * 2 ^ k % 1000 ∧ n * 2 ^ k % 1000 < 500

/-- The logarithms of what is computed with stay far from both ends of the format. -/
theorem log_spec_of_within {x : ℚ} (hlow : (2 : ℚ) ^ (-20 : ℤ) ≤ x) (hhigh : x ≤ 2 ^ (60 : ℤ)) :
    0 < x ∧ -1022 ≤ Int.log 2 x ∧ Int.log 2 x < 1023 := by
  have hpos : 0 < x := lt_of_lt_of_le (by positivity) hlow
  have hlog := (le_log_iff hpos).mpr hlow
  have hlog' := (log_lt_iff hpos (k := 61)).mpr (lt_of_le_of_lt hhigh (by norm_num))
  exact ⟨hpos, by omega, by omega⟩

theorem milliseconds_eq {u : ℕ} (hu : 0 < u) (hmax : u ≤ Duration.maxMicroseconds) :
    milliseconds ⟨u⟩ = max 1 ⌊roundedMilliseconds u⌋ := by
  have hlow : (2 : ℚ) ^ (-20 : ℤ) ≤ (u : ℚ) / (1000000 : ℕ) := by
    rw [le_div_iff₀ (by norm_num)]
    calc (2 : ℚ) ^ (-20 : ℤ) * (1000000 : ℕ) ≤ 1 := by norm_num
      _ ≤ u := mod_cast hu
  have hhigh : (u : ℚ) / (1000000 : ℕ) ≤ 2 ^ (47 : ℤ) := by
    rw [div_le_iff₀ (by norm_num)]
    calc (u : ℚ) ≤ (Duration.maxMicroseconds : ℕ) := mod_cast hmax
      _ ≤ 2 ^ (47 : ℤ) * (1000000 : ℕ) := by norm_num [Duration.maxMicroseconds]
  obtain ⟨hpos, hlog, hlog'⟩ := log_spec_of_within hlow (hhigh.trans (by norm_num))
  obtain ⟨m, e, hm, hseconds, hvalue⟩ := exists_ofRatio_nearest false hu (by norm_num) hlog hlog'
  obtain ⟨k, f, hk, hthousand, hvalue'⟩ := exists_ofInt_eq (n := 1000) (by norm_num) (by norm_num)
  -- Rounding keeps the seconds between the same powers of two.
  have hlow' := zpow_le_nearest hpos hlow
  have hhigh' := nearest_le_zpow hpos hhigh
  have hproduct : (m : ℚ) * 2 ^ e * (k * 2 ^ f) = 1000 * nearest (u / 1000000) := by
    rw [hvalue, hvalue']
    push_cast
    ring
  push_cast at hlow' hhigh'
  obtain ⟨hpos', hlog, hlog'⟩ := log_spec_of_within (x := 1000 * nearest ((u : ℚ) / 1000000))
    (by linarith) (by norm_num at hhigh' ⊢; linarith)
  rw [← hproduct] at hpos' hlog hlog'
  obtain ⟨p, g, hp, hmul, hvalue''⟩ := exists_mul_nearest hm hk hpos' hlog hlog'
  have hsign : decide ((u : Int) < 0) = false := decide_eq_false (by omega)
  have hthousand' : Binary64.ofInt 1000 = .finite false k f hk := hthousand
  rw [milliseconds, Duration.totalSeconds, hsign, Int.natAbs_natCast, hseconds, hthousand', hmul,
    truncate?_eq_floor, Option.getD_some, hvalue'', hproduct, roundedMilliseconds]

/-! ### Numbers that are no whole milliseconds -/

/-- Up to 2 ^ 33 seconds the two roundings together change less than a microsecond. -/
theorem abs_sub_roundedMilliseconds_lt {u : ℕ} (hu : 0 < u) (h : u < 2 ^ 33 * 1000000) :
    |(u : ℚ) / 1000 - roundedMilliseconds u| < 1 / 1000 := by
  have hpos : (0 : ℚ) < u / 1000000 := by positivity
  have hhigh : (u : ℚ) / 1000000 < 2 ^ (33 : ℤ) := by
    rw [div_lt_iff₀ (by norm_num)]
    exact_mod_cast h
  have hhigh' := nearest_le_zpow hpos hhigh.le
  have hpos' := nearest_pos hpos
  have hseconds := (abs_sub_nearest_le ((u : ℚ) / 1000000)).trans
    (div_le_div_of_nonneg_right (spacing_le (k := -20) hpos (by simpa using hhigh)) two_pos.le)
  have hproduct := (abs_sub_nearest_le (1000 * nearest ((u : ℚ) / 1000000))).trans
    (div_le_div_of_nonneg_right (spacing_le (k := -10) (by positivity)
      (lt_of_le_of_lt (mul_le_mul_of_nonneg_left hhigh' (by norm_num)) (by norm_num))) two_pos.le)
  rw [abs_le] at hseconds hproduct
  norm_num at hseconds hproduct
  rw [abs_lt, roundedMilliseconds]
  constructor <;> linarith

theorem floor_roundedMilliseconds_of_not_dvd {u : ℕ} (h : u < 2 ^ 33 * 1000000) (hdvd : ¬1000 ∣ u) :
    ⌊roundedMilliseconds u⌋ = (u / 1000 : ℕ) := by
  have hu : 0 < u := Nat.pos_of_ne_zero fun hzero => hdvd (hzero ▸ Nat.dvd_zero 1000)
  obtain ⟨hlow, hhigh⟩ := abs_lt.mp (abs_sub_roundedMilliseconds_lt hu h)
  -- A microsecond at least lies between the number and the whole milliseconds on either side.
  have hrest : 1 ≤ u % 1000 ∧ u % 1000 ≤ 999 := by omega
  have hsplit : (u : ℚ) = 1000 * (u / 1000 : ℕ) + (u % 1000 : ℕ) := mod_cast (Nat.div_add_mod u 1000).symm
  generalize u / 1000 = q at hsplit ⊢
  generalize u % 1000 = r at hsplit hrest
  have hrest' : (1 : ℚ) ≤ r ∧ (r : ℚ) ≤ 999 := mod_cast hrest
  rw [Int.floor_eq_iff]
  push_cast
  constructor <;> linarith

/-! ### Whole milliseconds -/

/-- Whether a number of milliseconds is shifted so far that a thousandth of it has as many binary digits as
the seconds have in the format. -/
def IsShift (n k : ℕ) : Prop := 1000 * 2 ^ 52 ≤ n * 2 ^ k ∧ n * 2 ^ k < 1000 * 2 ^ 53

theorem IsShift.unique {n k k' : ℕ} (h : IsShift n k) (h' : IsShift n k') : k = k' := by
  have hle : ∀ {i j}, IsShift n i → IsShift n j → i ≤ j := by
    intro i j hi hj
    by_contra hlt
    have hpow : n * 2 ^ (j + 1) ≤ n * 2 ^ i :=
      Nat.mul_le_mul_left n (Nat.pow_le_pow_right two_pos (by omega))
    rw [pow_succ, ← mul_assoc] at hpow
    obtain ⟨hlow, -⟩ := hj
    obtain ⟨-, hhigh⟩ := hi
    omega
  exact le_antisymm (hle h h') (hle h' h)

theorem exists_isShift {n : ℕ} (hn : 0 < n) (h : n < 2 ^ 52) : ∃ k, 10 ≤ k ∧ IsShift n k := by
  have hexists : ∃ k, 1000 * 2 ^ 52 ≤ n * 2 ^ k := ⟨62, by omega⟩
  obtain ⟨k, hk⟩ : ∃ k, k = Nat.find hexists := ⟨_, rfl⟩
  have hlow : 1000 * 2 ^ 52 ≤ n * 2 ^ k := hk ▸ Nat.find_spec hexists
  have hten : 10 ≤ k := by
    by_contra hlt
    have hpow : n * 2 ^ k ≤ n * 2 ^ 9 := Nat.mul_le_mul_left n (Nat.pow_le_pow_right two_pos (by omega))
    omega
  refine ⟨k, hten, hlow, ?_⟩
  have hbefore : ¬1000 * 2 ^ 52 ≤ n * 2 ^ (k - 1) := Nat.find_min hexists (by omega)
  have hpow : n * 2 ^ k = n * 2 ^ (k - 1) * 2 := by
    rw [mul_assoc, ← pow_succ, Nat.sub_add_cancel (by omega)]
  omega

theorem fallsShort_iff {n k : ℕ} (h : IsShift n k) : FallsShort n ↔
    n * 2 ^ k < 2 ^ 62 ∧ 256 < n * 2 ^ k % 1000 ∧ n * 2 ^ k % 1000 < 500 := by
  refine ⟨?_, fun hshort => ⟨k, h.1, hshort⟩⟩
  rintro ⟨k', hlow, hshort⟩
  rwa [h.unique ⟨hlow, by omega⟩]

/-- A number that begins at a given binary digit is rounded to 53 of them. -/
theorem nearest_div_two_pow {b i : ℕ} (k : ℕ) (hlow : 2 ^ 52 * 2 ^ i ≤ b) (hhigh : b < 2 ^ 53 * 2 ^ i) :
    nearest ((b : ℚ) / 2 ^ k) = (roundHalfEven b (2 ^ i) * 2 ^ i : ℕ) / 2 ^ k := by
  have hpow : (0 : ℚ) < 2 ^ i := by positivity
  have hscale : ∀ y : ℚ, y * 2 ^ i / 2 ^ k = y * 2 ^ ((i : ℤ) - k) := by
    intro y
    rw [zpow_sub₀ two_ne_zero, zpow_natCast, zpow_natCast, mul_div_assoc]
  have hsplit : (b : ℚ) / 2 ^ k = b / (2 ^ i : ℕ) * 2 ^ ((i : ℤ) - k) := by
    rw [← hscale, Nat.cast_pow, Nat.cast_ofNat, div_mul_cancel₀ _ hpow.ne']
  rw [hsplit, nearest_mul_zpow, ← roundHalfEven_eq b (Nat.two_pow_pos i), ← hscale]
  · push_cast
    rfl
  · rw [le_div_iff₀ (by positivity)]
    exact_mod_cast hlow
  · rw [div_lt_iff₀ (by positivity)]
    exact_mod_cast hhigh

theorem nearest_thousandth {n k : ℕ} (h : IsShift n k) :
    1000 * nearest ((n : ℚ) / 1000) = (1000 * roundHalfEven (n * 2 ^ k) 1000 : ℕ) / 2 ^ k := by
  have hsplit : (n : ℚ) / 1000 = (n * 2 ^ k : ℕ) / (1000 : ℕ) * 2 ^ (-(k : ℤ)) := by
    rw [zpow_neg, zpow_natCast]
    push_cast
    field_simp
  rw [hsplit, nearest_mul_zpow, ← roundHalfEven_eq _ (by norm_num), zpow_neg, zpow_natCast]
  · push_cast
    ring
  · rw [le_div_iff₀ (by positivity)]
    exact_mod_cast (mul_comm _ _).trans_le h.1
  · rw [div_lt_iff₀ (by positivity)]
    exact_mod_cast h.2.trans_eq (mul_comm _ _)

/-- The seconds of a shifted number that is no tie. -/
theorem roundHalfEven_thousandth {a : ℕ} (h : 1024 ∣ a) :
    (a % 1000 < 500 ∧ 1000 * roundHalfEven a 1000 + a % 1000 = a) ∨
      500 < a % 1000 ∧ 1000 * roundHalfEven a 1000 + a % 1000 = a + 1000 := by
  obtain ⟨j, rfl⟩ := h
  have htie : 1024 * j % 1000 ≠ 500 := by omega
  rcases lt_or_gt_of_ne htie with hless | hmore
  · have hround : roundHalfEven (1024 * j) 1000 = 1024 * j / 1000 :=
      roundHalfEven_eq_of_lt (by omega) (by omega)
    exact Or.inl ⟨hless, by omega⟩
  · have hround : roundHalfEven (1024 * j) 1000 = 1024 * j / 1000 + 1 :=
      roundHalfEven_eq_of_lt (by omega) (by omega)
    exact Or.inr ⟨hmore, by omega⟩

/-- What the two roundings make of a shifted number: all of it, half of a unit of the seconds less, or more but
not by a whole millisecond. -/
theorem exists_roundedMilliseconds {n k : ℕ} (h : IsShift n k) (hk : 10 ≤ k) : ∃ w : ℕ,
    roundedMilliseconds (1000 * n) = w / 2 ^ k ∧
      (FallsShort n → w + 512 = n * 2 ^ k) ∧
      (¬FallsShort n → n * 2 ^ k ≤ w ∧ w < n * 2 ^ k + 1024) := by
  have hseconds : ((1000 * n : ℕ) : ℚ) / 1000000 = n / 1000 := by
    push_cast
    ring
  rw [roundedMilliseconds, hseconds, nearest_thousandth h, fallsShort_iff h]
  obtain ⟨hlow, hhigh⟩ := h
  have hdvd : 1024 ∣ n * 2 ^ k := Dvd.dvd.mul_left (pow_dvd_pow 2 hk) n
  generalize n * 2 ^ k = a at hlow hhigh hdvd ⊢
  have hround := roundHalfEven_thousandth hdvd
  generalize 1000 * roundHalfEven a 1000 = b at hround ⊢
  obtain ⟨j, rfl⟩ := hdvd
  rcases hround with ⟨hrest, hb⟩ | ⟨hrest, hb⟩
  · by_cases hbinade : 1024 * j < 2 ^ 62
    · refine ⟨_, nearest_div_two_pow (i := 9) k (by omega) (by omega), ?_⟩
      by_cases hshort : 256 < 1024 * j % 1000
      · have hdown : roundHalfEven b (2 ^ 9) = 2 * j - 1 := roundHalfEven_eq_of_lt (by omega) (by omega)
        rw [hdown]
        exact ⟨fun _ => by omega, fun hnot => absurd ⟨hbinade, hshort, hrest⟩ hnot⟩
      · have hexact : roundHalfEven b (2 ^ 9) = 2 * j :=
          roundHalfEven_eq_of_even (by norm_num) (even_two_mul j) (by omega) (by omega)
        rw [hexact]
        exact ⟨fun hshort' => absurd hshort'.2.1 hshort, fun _ => by omega⟩
    · have hexact : roundHalfEven b (2 ^ 10) = j := roundHalfEven_eq_of_lt (by omega) (by omega)
      refine ⟨_, nearest_div_two_pow (i := 10) k (by omega) (by omega), ?_⟩
      rw [hexact]
      exact ⟨fun hshort => absurd hshort.1 hbinade, fun _ => by omega⟩
  · have hnot : ¬(1024 * j < 2 ^ 62 ∧ 256 < 1024 * j % 1000 ∧ 1024 * j % 1000 < 500) := by omega
    by_cases hbinade : b < 2 ^ 62
    · obtain ⟨hless, hmore⟩ := roundHalfEven_bounds b (2 ^ 9)
      exact ⟨_, nearest_div_two_pow (i := 9) k (by omega) (by omega), fun hshort => absurd hshort hnot,
        fun _ => by omega⟩
    · have hexact : roundHalfEven b (2 ^ 10) = j := roundHalfEven_eq_of_lt (by omega) (by omega)
      refine ⟨_, nearest_div_two_pow (i := 10) k (by omega) (by omega), fun hshort => absurd hshort hnot, ?_⟩
      rw [hexact]
      exact fun _ => by omega

theorem floor_roundedMilliseconds {n : ℕ} (hn : 0 < n) (h : n < 2 ^ 52) :
    (FallsShort n → 1 < n ∧ ⌊roundedMilliseconds (1000 * n)⌋ = n - 1) ∧
      (¬FallsShort n → ⌊roundedMilliseconds (1000 * n)⌋ = n) := by
  obtain ⟨k, hk, hshift⟩ := exists_isShift hn h
  obtain ⟨w, hw, hshort, hnot⟩ := exists_roundedMilliseconds hshift hk
  have hfloor : ⌊roundedMilliseconds (1000 * n)⌋ = (w / 2 ^ k : ℕ) := by
    rw [hw]
    exact_mod_cast Rat.floor_natCast_div_natCast w (2 ^ k)
  have hpow : 1024 ≤ 2 ^ k := Nat.pow_le_pow_right two_pos hk
  rw [hfloor]
  constructor
  · intro hshort'
    have hone : 1 < n := by
      by_contra hle
      obtain rfl : n = 1 := by omega
      obtain ⟨k', hlow, hhigh, -⟩ := hshort'
      rw [one_mul] at hlow hhigh
      have hlt : k' < 62 := (Nat.pow_lt_pow_iff_right (by norm_num)).mp hhigh
      have hle : 2 ^ k' ≤ 2 ^ 61 := Nat.pow_le_pow_right two_pos (by omega)
      omega
    refine ⟨hone, ?_⟩
    have hsplit : n * 2 ^ k = (n - 1) * 2 ^ k + 2 ^ k := by
      rw [← Nat.succ_mul, Nat.succ_eq_add_one, Nat.sub_add_cancel hn]
    have hdiv : w / 2 ^ k = n - 1 := by
      have hw' := hshort hshort'
      apply Nat.div_eq_of_lt_le
      · omega
      · rw [Nat.add_mul]
        omega
    rw [hdiv]
    omega
  · intro hexact
    obtain ⟨hlow, hhigh⟩ := hnot hexact
    have hdiv : w / 2 ^ k = n := by
      apply Nat.div_eq_of_lt_le
      · exact hlow
      · rw [Nat.add_mul]
        omega
    rw [hdiv]

/-! ### What is sent -/

variable {ρ : Type} [CacheServer ρ] (c : RemoteCache ρ) (j : Journal)

/-- For a positive duration the number of seconds and its product with a thousand are rounded to the nearest
binary64 numbers, and the fraction is dropped. Up to 2 ^ 33 seconds this gives the whole milliseconds of the
duration, at least one, exactly unless it is a whole number of milliseconds that falls short; such a number
below 2 ^ 52 is sent as the one before it. -/
theorem store_sends_milliseconds {u : ℕ} (hu : 0 < u) (hmax : u ≤ Duration.maxMicroseconds) : ∃ p : ℤ,
    (∀ (key : Text) (value : String), ((store key value (some ⟨u⟩)).outcome c j).state =
      c.afterCall (.set (c.serverKey key) (encodeUtf8 value) (some p))) ∧
    p = max 1 ⌊nearest (1000 * nearest (u / 1000000))⌋ ∧
    (u < 2 ^ 33 * 1000000 →
      (p = max 1 ((u / 1000 : ℕ) : ℤ) ↔ ¬∃ n, u = 1000 * n ∧ FallsShort n)) ∧
    ∀ n, u = 1000 * n → n < 2 ^ 52 → (FallsShort n → p = n - 1) ∧ (¬FallsShort n → p = n) := by
  have hsent := milliseconds_eq hu hmax
  have hwhole : ∀ n, u = 1000 * n → n < 2 ^ 52 →
      (FallsShort n → milliseconds ⟨u⟩ = n - 1) ∧ (¬FallsShort n → milliseconds ⟨u⟩ = n) := by
    rintro n rfl hn
    obtain ⟨hshort, hexact⟩ := floor_roundedMilliseconds (n := n) (by omega) hn
    constructor
    · intro h
      obtain ⟨hone, hfloor⟩ := hshort h
      rw [hsent, hfloor]
      omega
    · intro h
      rw [hsent, hexact h]
      omega
  refine ⟨milliseconds ⟨u⟩, fun key value => state_store c j key value (some ⟨u⟩), hsent, fun hsmall => ?_, hwhole⟩
  by_cases hdvd : 1000 ∣ u
  · obtain ⟨n, rfl⟩ := hdvd
    obtain ⟨hshort, hexact⟩ := hwhole n rfl (by omega)
    have hdiv : 1000 * n / 1000 = n := Nat.mul_div_cancel_left n (by norm_num)
    rw [hdiv]
    constructor
    · rintro h ⟨n', hn', hshort'⟩
      obtain rfl : n = n' := by omega
      rw [hshort hshort'] at h
      omega
    · intro h
      rw [hexact fun hshort' => h ⟨n, rfl, hshort'⟩]
      omega
  · rw [hsent, floor_roundedMilliseconds_of_not_dvd hsmall hdvd]
    refine iff_of_true rfl ?_
    rintro ⟨n, rfl, -⟩
    exact hdvd (Nat.dvd_mul_right 1000 n)

section Example

theorem fallsShort_1001 : FallsShort 1001 := ⟨52, by norm_num⟩

/-- A second and a millisecond are sent as one second. -/
theorem store_sends_milliseconds_1001 : ∃ p : ℤ,
    (∀ (key : Text) (value : String), ((store key value (some ⟨1001000⟩)).outcome
        ({ server := {} } : RemoteCache ScriptedServer) .ordinary).state.server.calls =
      [.set ("qna:" ++ key) (encodeUtf8 value) (some p)]) ∧ p = 1000 := by
  obtain ⟨p, hsent, -, -, hwhole⟩ := store_sends_milliseconds ({ server := {} } : RemoteCache ScriptedServer)
    .ordinary (u := 1001000) (by norm_num) (by norm_num [Duration.maxMicroseconds])
  refine ⟨p, fun key value => ?_, ?_⟩
  · have hstate := hsent key value
    rw [Nat.cast_ofNat] at hstate
    rw [hstate]
    rfl
  · exact ((hwhole 1001 (by norm_num) (by norm_num)).1 fallsShort_1001).trans (by norm_num)

/-- So the milliseconds of a duration are not always those that are sent. -/
theorem not_sent_1001 :
    ((store "k" "v" (some ⟨1001000⟩)).outcome
        ({ server := {} } : RemoteCache ScriptedServer) .ordinary).state.server.calls =
      [.set "qna:k" [0x76] (some 1000)] ∧ ¬milliseconds ⟨1001000⟩ = 1001 := by
  have hmilliseconds : milliseconds ⟨1001000⟩ = 1000 := by decide +kernel
  rw [state_store, Option.map_some, hmilliseconds]
  exact ⟨rfl, by norm_num⟩

end Example

end RemoteCache

end QuestionBoard
