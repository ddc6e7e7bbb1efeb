import Mathlib.Algebra.Order.Ring.Int
import QuestionBoard.Proofs.Question.TooLong
import QuestionBoard.Proofs.Text.Points

/-!
Spellings of keys. A key may be spelled with a sign and with zeros before its digits; one spelling of
each key is canonical, that of its own identifier. `QuestionId.toKey` reads the spellings of all keys
and refuses every other text, so two identifiers name one row exactly if they spell the same number.
-/

namespace QuestionBoard

/-! ### Spellings -/

/-- Whether a text is one or more digits. -/
def Digits (cs : List Char) : Prop := cs ≠ [] ∧ ∀ c ∈ cs, c.isDigit = true

/-- Whether a text spells a whole number: digits, perhaps after a sign. -/
inductive Spells : List Char → Int → Prop
  | plain {cs : List Char} (h : Digits cs) : Spells cs (Nat.ofDigitChars 10 cs 0)
  | plus {cs : List Char} (h : Digits cs) : Spells ('+' :: cs) (Nat.ofDigitChars 10 cs 0)
  | minus {cs : List Char} (h : Digits cs) : Spells ('-' :: cs) (-(Nat.ofDigitChars 10 cs 0 : Int))

/-- Whether a text is the spelling of a number without anything that could be left out: zero has no
sign, and any other number no plus sign and no zeros before its digits. -/
inductive Canonical : List Char → Prop
  | zero : Canonical ['0']
  | positive {c : Char} {cs : List Char} (hc : c ≠ '0') (h : Digits (c :: cs)) : Canonical (c :: cs)
  | negative {c : Char} {cs : List Char} (hc : c ≠ '0') (h : Digits (c :: cs)) :
      Canonical ('-' :: c :: cs)

variable {cs : List Char} {c : Char} {n : Int}

theorem Digits.ne_sign (h : Digits (c :: cs)) : c ≠ '-' ∧ c ≠ '+' := by
  have hdigit := h.2 c List.mem_cons_self
  constructor
  · rintro rfl
    exact absurd hdigit (by decide)
  · rintro rfl
    exact absurd hdigit (by decide)

/-! ### Digits as they are printed -/

theorem isDigit_iff : c.isDigit = true ↔ 48 ≤ c.toNat ∧ c.toNat ≤ 57 := by
  rw [Char.isDigit, Bool.and_eq_true, decide_eq_true_eq, decide_eq_true_eq, ge_iff_le,
    UInt32.le_iff_toNat_le, UInt32.le_iff_toNat_le]
  exact Iff.rfl

theorem digitChar_toNat (h : c.isDigit = true) : Nat.digitChar (c.toNat - 48) = c := by
  obtain ⟨hleast, hgreatest⟩ := isDigit_iff.mp h
  apply Char.toNat_inj.mp
  rw [Nat.toNat_digitChar_of_lt_ten (by omega)]
  omega

/-- Digits after those of a positive number go on printing it. -/
theorem toDigits_append_ofDigitChars {m : Nat} (hm : 0 < m) (h : ∀ c ∈ cs, c.isDigit = true) :
    Nat.toDigits 10 m ++ cs = Nat.toDigits 10 (Nat.ofDigitChars 10 cs m) := by
  induction cs generalizing m with
  | nil => rw [List.append_nil, Nat.ofDigitChars_nil]
  | cons c cs ih =>
      have hc := h c List.mem_cons_self
      obtain ⟨hleast, hgreatest⟩ := isDigit_iff.mp hc
      have hone : Nat.toDigits 10 (c.toNat - 48) = [c] := by
        rw [Nat.toDigits_of_lt_base (by omega), digitChar_toNat hc]
      have hlast : Nat.toDigits 10 m ++ [c] = Nat.toDigits 10 (10 * m + (c.toNat - 48)) := by
        rw [← hone, Nat.toDigits_append_toDigits (by decide) hm (by omega)]
      calc Nat.toDigits 10 m ++ c :: cs
          = (Nat.toDigits 10 m ++ [c]) ++ cs := by rw [List.append_assoc, List.singleton_append]
        _ = Nat.toDigits 10 (10 * m + (c.toNat - 48)) ++ cs := by rw [hlast]
        _ = Nat.toDigits 10 (Nat.ofDigitChars 10 cs (10 * m + (c.toNat - 48))) :=
            ih (by omega) fun d hd => h d (List.mem_cons_of_mem c hd)
        _ = Nat.toDigits 10 (Nat.ofDigitChars 10 (c :: cs) m) := by rw [Nat.ofDigitChars_cons]; rfl

/-- Digits print the number that they spell, if the first one is not zero. -/
theorem toDigits_ofDigitChars (hc : c ≠ '0') (h : Digits (c :: cs)) :
    Nat.toDigits 10 (Nat.ofDigitChars 10 (c :: cs) 0) = c :: cs := by
  have hdigit := h.2 c List.mem_cons_self
  obtain ⟨hleast, hgreatest⟩ := isDigit_iff.mp hdigit
  have hpos : c.toNat ≠ 48 := fun e => hc (Char.toNat_inj.mp e)
  have hfirst : Nat.toDigits 10 (c.toNat - 48) = [c] := by
    rw [Nat.toDigits_of_lt_base (by omega), digitChar_toNat hdigit]
  have htail : Nat.toDigits 10 (c.toNat - 48) ++ cs =
      Nat.toDigits 10 (Nat.ofDigitChars 10 cs (c.toNat - 48)) :=
    toDigits_append_ofDigitChars (by omega) fun d hd => h.2 d (List.mem_cons_of_mem c hd)
  rw [hfirst, List.singleton_append] at htail
  rw [Nat.ofDigitChars_cons, Nat.mul_zero, Nat.zero_add]
  exact htail.symm

theorem ofDigitChars_pos (hc : c ≠ '0') (h : Digits (c :: cs)) :
    0 < Nat.ofDigitChars 10 (c :: cs) 0 := by
  refine Nat.pos_of_ne_zero fun hzero => ?_
  have hprinted := toDigits_ofDigitChars hc h
  rw [hzero, Nat.toDigits_zero] at hprinted
  exact hc (List.cons.inj hprinted).1.symm

/-- The digits of a number start with zero only if it is zero. -/
theorem head_toDigits {m : Nat} (hm : m ≠ 0) : ∃ c cs, c ≠ '0' ∧ Nat.toDigits 10 m = c :: cs := by
  induction m using Nat.strongRecOn with
  | ind m ih =>
      by_cases hlt : m < 10
      · refine ⟨m.digitChar, [], ?_, Nat.toDigits_of_lt_base hlt⟩
        exact fun heq => hm (Nat.digitChar_eq_zero.mp heq)
      · obtain ⟨c, cs, hc, hcs⟩ := ih (m / 10) (by omega) (by omega)
        refine ⟨c, cs ++ [(m % 10).digitChar], hc, ?_⟩
        rw [Nat.toDigits_of_base_le (by decide) (by omega), hcs, List.cons_append]

/-! ### Canonical spellings -/

theorem digits_toDigits (m : Nat) : Digits (Nat.toDigits 10 m) :=
  ⟨Nat.toDigits_ne_nil, fun _ hc => Nat.isDigit_of_mem_toDigits (by decide) (by decide) hc⟩

/-- A number is printed in its canonical spelling. -/
theorem canonical_decimalText (n : Int) : Canonical (decimalText n).toList := by
  have hdigits := digits_toDigits n.natAbs
  rw [toList_decimalText]
  by_cases hzero : n = 0
  · subst hzero
    rw [if_neg (by decide), Int.natAbs_zero, Nat.toDigits_zero]
    exact .zero
  · obtain ⟨c, cs, hc, hcs⟩ := head_toDigits (m := n.natAbs) (by omega)
    rw [hcs] at hdigits ⊢
    split
    · exact .negative hc hdigits
    · exact .positive hc hdigits

/-- A canonical spelling is what the number is printed as. -/
theorem decimalText_of_canonical (h : Canonical cs) (hn : Spells cs n) : (decimalText n).toList = cs := by
  rw [toList_decimalText]
  cases h with
  | zero =>
      have hzero : n = 0 := by
        cases hn
        rfl
      subst hzero
      rfl
  | @positive c cs hc h =>
      have hn : n = Nat.ofDigitChars 10 (c :: cs) 0 := by
        cases hn with
        | plain => rfl
        | plus => exact absurd rfl h.ne_sign.2
        | minus => exact absurd rfl h.ne_sign.1
      subst hn
      rw [if_neg (by omega), Int.natAbs_natCast, toDigits_ofDigitChars hc h]
  | @negative c cs hc h =>
      have hn : n = -(Nat.ofDigitChars 10 (c :: cs) 0 : Int) := by
        cases hn with
        | plain hsigned => exact absurd rfl hsigned.ne_sign.1
        | minus => rfl
      have hpos := ofDigitChars_pos hc h
      subst hn
      rw [if_pos (by omega), Int.natAbs_neg, Int.natAbs_natCast, toDigits_ofDigitChars hc h]

/-! ### Reading -/

theorem readDigits?_of_digits (h : Digits cs) (hlength : cs.length ≤ maxIntegerDigits) :
    readDigits? cs = some (.ok (Nat.ofDigitChars 10 cs 0)) := by
  have hvalue : numberOf (cs.map fun c => c.toNat - '0'.toNat) = Nat.ofDigitChars 10 cs 0 := by
    rw [numberOf, List.foldl_map, Nat.ofDigitChars_eq_foldl]
  rw [readDigits?, filterMap_asciiDigit? h.2, List.length_map, hvalue, if_neg,
    if_neg (Nat.not_lt.mpr hlength)]
  simp [h.1]

theorem readDigits?_of_not_digits (h : ¬Digits cs) : readDigits? cs = none := by
  refine if_pos ?_
  rw [Bool.or_eq_true, decide_eq_true_eq]
  by_cases hempty : cs = []
  · exact Or.inl (List.isEmpty_iff.mpr hempty)
  · right
    intro hlength
    refine h ⟨hempty, fun c hc => ?_⟩
    have hsome := List.filterMap_length_eq_length.mp hlength c hc
    rw [asciiDigit?] at hsome
    split at hsome
    · next hbounds =>
        rw [Char.isDigit, Bool.and_eq_true, decide_eq_true_eq, decide_eq_true_eq]
        exact hbounds
    · cases hsome

namespace QuestionId

theorem signed_of_digits (h : Digits cs) : signed cs = (false, cs) := by
  cases cs with
  | nil => rfl
  | cons c cs =>
      obtain ⟨hminus, hplus⟩ := h.ne_sign
      rw [signed.eq_def]
      split <;> simp_all

/-- A text spells a number if digits follow its sign. -/
theorem spells_iff : Spells cs n ↔ Digits (signed cs).2 ∧
    n = if (signed cs).1 then -(Nat.ofDigitChars 10 (signed cs).2 0 : Int)
      else Nat.ofDigitChars 10 (signed cs).2 0 := by
  constructor
  · intro h
    cases h with
    | plain h =>
        rw [signed_of_digits h]
        exact ⟨h, rfl⟩
    | plus h | minus h => exact ⟨h, rfl⟩
  · rintro ⟨h, rfl⟩
    revert h
    rw [signed.eq_def]
    split
    · exact .minus
    · exact .plus
    · exact .plain

theorem length_signed_le (h : Digits (signed cs).2) :
    (signed cs).2.length ≤ cs.countP Char.isDigit := by
  have hall : (signed cs).2.countP Char.isDigit = (signed cs).2.length :=
    List.countP_eq_length.mpr h.2
  rw [← hall]
  apply List.Sublist.countP_le
  rw [signed.eq_def]
  split
  · exact List.sublist_cons_self _ _
  · exact List.sublist_cons_self _ _
  · exact List.Sublist.refl _

variable {id : QuestionId}

/-- The failure for an identifier that is no key. -/
def refusal (id : QuestionId) (reason : String) : Failure :=
  .parse ("question id " ++ quoted id.text ++ reason) (.text id.text)

theorem toKey_of_not_spells (h : ∀ n, ¬Spells id.text.chars n) :
    id.toKey = .error (id.refusal " is not an integer") := by
  have hdigits : ¬Digits (signed id.text.chars).2 := fun hdigits =>
    h _ (spells_iff.mpr ⟨hdigits, rfl⟩)
  unfold toKey
  simp only [readDigits?_of_not_digits hdigits]
  rfl

/-- A spelling with no more digits than are read is read as its number, if that is a key. -/
theorem toKey_of_spells (hcount : id.text.chars.countP Char.isDigit ≤ maxIntegerDigits)
    (h : Spells id.text.chars n) :
    id.toKey = if InBounds n then .ok n else .error (id.refusal " is out of range") := by
  obtain ⟨hdigits, rfl⟩ := spells_iff.mp h
  have hlength := Nat.le_trans (length_signed_le hdigits) hcount
  unfold toKey
  simp only [readDigits?_of_digits hdigits hlength]
  rfl

theorem inBounds_iff : InBounds n ↔ -2 ^ 31 ≤ n ∧ n ≤ 2 ^ 31 - 1 := by
  show (-2147483648 ≤ n ∧ n ≤ 2147483647) ↔ _
  omega

/-- Reading identifiers as keys is exact. An identifier with at most 4300 digits is read as `n` exactly if
it spells `n` and `n` has 32 bits, and is otherwise refused by a failure that carries its text; the
identifier of a key is read as the key; and the key that is read has this identifier for its own exactly
if it is in its canonical spelling. -/
theorem toKey_exact (id : QuestionId) (hcount : id.text.chars.countP Char.isDigit ≤ 4300) :
    (∀ n, id.toKey = .ok n ↔ Spells id.text.chars n ∧ -2 ^ 31 ≤ n ∧ n ≤ 2 ^ 31 - 1) ∧
    ((∀ n, ¬(Spells id.text.chars n ∧ -2 ^ 31 ≤ n ∧ n ≤ 2 ^ 31 - 1)) →
      ∃ reason, id.toKey = .error (.parse reason (.text id.text))) ∧
    (∀ n, -2 ^ 31 ≤ n ∧ n ≤ 2 ^ 31 - 1 → (ofKey n).toKey = .ok n) ∧
    (∀ n, id.toKey = .ok n → (ofKey n = id ↔ Canonical id.text.chars)) := by
  simp only [← inBounds_iff]
  have hread : ∀ n, id.toKey = .ok n → Spells id.text.chars n ∧ InBounds n := by
    intro n hn
    by_cases hspells : ∃ m, Spells id.text.chars m
    · obtain ⟨m, hm⟩ := hspells
      rw [toKey_of_spells hcount hm] at hn
      split at hn
      · next hbounds =>
          obtain rfl := Except.ok.inj hn
          exact ⟨hm, hbounds⟩
      · cases hn
    · rw [toKey_of_not_spells fun m hm => hspells ⟨m, hm⟩] at hn
      cases hn
  refine ⟨fun n => ⟨hread n, fun ⟨hspells, hbounds⟩ => ?_⟩, fun hnone => ?_,
    fun n hn => toKey_ofKey hn, fun n hn => ⟨?_, fun hcanonical => ?_⟩⟩
  · rw [toKey_of_spells hcount hspells, if_pos hbounds]
  · by_cases hspells : ∃ n, Spells id.text.chars n
    · obtain ⟨n, hn⟩ := hspells
      refine ⟨_, (toKey_of_spells hcount hn).trans (if_neg fun hbounds => hnone n ⟨hn, hbounds⟩)⟩
    · exact ⟨_, toKey_of_not_spells fun n hn => hspells ⟨n, hn⟩⟩
  · rintro rfl
    exact canonical_decimalText n
  · apply ext
    exact Text.plain_eq_of_chars (decimalText_of_canonical hcanonical (hread n hn).1) (decimalText_ne_empty n)

/-- A spelling of -7 that is not the canonical one. -/
def paddedSeven : QuestionId := ⟨"-007", by decide⟩

theorem toKey_exact_paddedSeven : paddedSeven.text.chars.countP Char.isDigit ≤ 4300 ∧
    paddedSeven.toKey = .ok (-7) ∧ ofKey (-7) ≠ paddedSeven := by
  have hcount : paddedSeven.text.chars.countP Char.isDigit ≤ 4300 := by decide
  obtain ⟨hread, -, -, hown⟩ := toKey_exact paddedSeven hcount
  have hspells : Spells ('-' :: ['0', '0', '7']) (-7) :=
    .minus ⟨List.cons_ne_nil _ _, List.all_eq_true.mp rfl⟩
  have hkey : paddedSeven.toKey = .ok (-7) := (hread (-7)).mpr ⟨hspells, by decide⟩
  refine ⟨hcount, hkey, fun heq => ?_⟩
  have hcanonical := (hown (-7) hkey).mp heq
  change Canonical ['-', '0', '0', '7'] at hcanonical
  cases hcanonical with
  | positive hc h => exact absurd rfl h.ne_sign.1
  | negative hc h => exact absurd rfl hc

end QuestionId

end QuestionBoard
