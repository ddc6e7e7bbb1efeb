import QuestionBoard.Question.Id

/-!
Keys and the identifiers that show them. The identifier of a key reads back as the key, so different
keys have different identifiers; an identifier that reads as a key need not be the one that shows it.
-/

namespace QuestionBoard

/-! ### Digits -/

theorem asciiDigit?_of_isDigit {c : Char} (h : c.isDigit = true) :
    asciiDigit? c = some (c.toNat - '0'.toNat) := by
  refine if_pos ?_
  rw [Char.isDigit, Bool.and_eq_true, decide_eq_true_eq, decide_eq_true_eq] at h
  exact h

theorem filterMap_asciiDigit? {cs : List Char} (h : ∀ c ∈ cs, c.isDigit = true) :
    cs.filterMap asciiDigit? = cs.map fun c => c.toNat - '0'.toNat := by
  induction cs with
  | nil => rfl
  | cons c cs ih =>
      have hc := asciiDigit?_of_isDigit (h c (by simp))
      rw [List.filterMap_cons, hc, List.map_cons, ih fun d hd => h d (List.mem_cons_of_mem c hd)]

theorem numberOf_toDigits (n : Nat) :
    numberOf ((Nat.toDigits 10 n).map fun c => c.toNat - '0'.toNat) = n := by
  rw [numberOf, List.foldl_map, ← Nat.ofDigitChars_eq_foldl, Nat.ofDigitChars_ten_toDigits]

/-- The decimal digits of a number read as the number, as long as they are not too many. -/
theorem readDigits?_toDigits {n : Nat} (h : (Nat.toDigits 10 n).length ≤ maxIntegerDigits) :
    readDigits? (Nat.toDigits 10 n) = some (.ok n) := by
  have hdigits := filterMap_asciiDigit? fun c (hc : c ∈ Nat.toDigits 10 n) =>
    Nat.isDigit_of_mem_toDigits (by decide) (by decide) hc
  rw [readDigits?, hdigits, List.length_map, numberOf_toDigits, if_neg, if_neg (Nat.not_lt.mpr h)]
  simp [Nat.toDigits_ne_nil]

theorem ne_sign_of_mem_toDigits {n : Nat} {c : Char} (h : c ∈ Nat.toDigits 10 n) :
    c ≠ '-' ∧ c ≠ '+' := by
  have hdigit := Nat.isDigit_of_mem_toDigits (by decide) (by decide) h
  constructor
  · rintro rfl
    exact absurd hdigit (by decide)
  · rintro rfl
    exact absurd hdigit (by decide)

/-! ### Identifiers of keys -/

theorem QuestionId.text_of_ofText {t : Text} {id : QuestionId} (h : ofText t = .ok id) : id.text = t := by
  unfold ofText at h
  split at h
  · cases h
  · rw [← Except.ok.inj h]

theorem toList_decimalText (n : Int) : (decimalText n).toList =
    if n < 0 then '-' :: Nat.toDigits 10 n.natAbs else Nat.toDigits 10 n.natAbs := by
  rw [decimalText]
  split <;> simp [decimalDigits]

theorem toDigits_injective {m n : Nat} (h : Nat.toDigits 10 m = Nat.toDigits 10 n) : m = n := by
  rw [← Nat.ofDigitChars_ten_toDigits (n := m), h, Nat.ofDigitChars_ten_toDigits]

theorem decimalText_injective {m n : Int} (h : decimalText m = decimalText n) : m = n := by
  have hlist := congrArg String.toList h
  rw [toList_decimalText, toList_decimalText] at hlist
  have hsign : ∀ k l : Nat, '-' :: Nat.toDigits 10 k ≠ Nat.toDigits 10 l := fun k l heq =>
    (ne_sign_of_mem_toDigits (n := l) (c := '-') (heq ▸ by simp)).1 rfl
  by_cases hm : m < 0 <;> by_cases hn : n < 0
  · rw [if_pos hm, if_pos hn] at hlist
    have := toDigits_injective (List.cons.inj hlist).2
    omega
  · rw [if_pos hm, if_neg hn] at hlist
    exact absurd hlist (hsign _ _)
  · rw [if_neg hm, if_pos hn] at hlist
    exact absurd hlist.symm (hsign _ _)
  · rw [if_neg hm, if_neg hn] at hlist
    have := toDigits_injective hlist
    omega

namespace QuestionId

theorem ofKey_injective {m n : Int} (h : ofKey m = ofKey n) : m = n :=
  decimalText_injective (Text.plain.inj (congrArg text h))

@[simp] theorem ofKey_inj {m n : Int} : ofKey m = ofKey n ↔ m = n :=
  ⟨ofKey_injective, congrArg ofKey⟩

theorem ext {id id' : QuestionId} (h : id.text = id'.text) : id = id' := by
  cases id
  cases id'
  cases h
  rfl

/-- Whether a key is one that identifiers are read as. -/
def InBounds (key : Int) : Prop := keyBounds.1 ≤ key ∧ key ≤ keyBounds.2

instance (key : Int) : Decidable (InBounds key) := inferInstanceAs (Decidable (_ ∧ _))

/-- What an identifier reads as is given by its sign and the digits after it. -/
theorem toKey_eq_ok_iff {id : QuestionId} {key : Int} :
    id.toKey = .ok key ↔ InBounds key ∧ ∃ n : Nat,
      readDigits? (signed id.text.chars).2 = some (.ok n) ∧
        key = if (signed id.text.chars).1 then -(n : Int) else n := by
  rw [toKey]
  obtain ⟨negative, digits⟩ := signed id.text.chars
  simp only
  rcases readDigits? digits with _ | f | n
  · constructor
    · intro h
      cases h
    · rintro ⟨_, n, h, _⟩
      cases h
  · constructor
    · intro h
      cases h
    · rintro ⟨_, n, h, _⟩
      cases h
  · change (if InBounds (if negative then -(n : Int) else n) then _ else _) = _ ↔ _
    by_cases hbounds : InBounds (if negative then -(n : Int) else n)
    · rw [if_pos hbounds]
      constructor
      · intro h
        obtain rfl := Except.ok.inj h
        exact ⟨hbounds, n, rfl, rfl⟩
      · rintro ⟨_, n', h, rfl⟩
        obtain rfl := Except.ok.inj (Option.some.inj h)
        rfl
    · rw [if_neg hbounds]
      constructor
      · intro h
        cases h
      · rintro ⟨hkey, n', h, rfl⟩
        obtain rfl := Except.ok.inj (Option.some.inj h)
        exact absurd hkey hbounds

theorem signed_toDigits (n : Nat) : signed (Nat.toDigits 10 n) = (false, Nat.toDigits 10 n) := by
  have hsign := fun c (h : c ∈ Nat.toDigits 10 n) => ne_sign_of_mem_toDigits h
  cases hdigits : Nat.toDigits 10 n with
  | nil => rfl
  | cons c rest =>
      obtain ⟨hminus, hplus⟩ := hsign c (by simp [hdigits])
      rw [signed.eq_def]
      split <;> simp_all

/-- The identifier of a key reads as the key. -/
theorem toKey_ofKey {key : Int} (h : InBounds key) : (ofKey key).toKey = .ok key := by
  have hread : readDigits? (Nat.toDigits 10 key.natAbs) = some (.ok key.natAbs) := by
    have hten : (Nat.toDigits 10 key.natAbs).length ≤ 10 := by
      rw [Nat.length_toDigits_le_iff (by decide) (by decide)]
      have hleast := h.1
      have hgreatest := h.2
      simp only [keyBounds] at hleast hgreatest
      omega
    exact readDigits?_toDigits (Nat.le_trans hten (by decide))
  have htext : (ofKey key).text.chars = _ := toList_decimalText key
  refine toKey_eq_ok_iff.mpr ⟨h, key.natAbs, ?_⟩
  by_cases hkey : key < 0
  · rw [htext, if_pos hkey]
    refine ⟨hread, ?_⟩
    simp only [signed, if_true]
    omega
  · rw [htext, if_neg hkey, signed_toDigits]
    refine ⟨hread, ?_⟩
    simp only [Bool.false_eq_true, if_false]
    omega

end QuestionId

end QuestionBoard
