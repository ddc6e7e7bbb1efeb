import QuestionBoard.Proofs.Json.Reader
import QuestionBoard.Proofs.Json.Strings
import QuestionBoard.Proofs.Number.Shortest
import QuestionBoard.Proofs.Question.Spelling

/-!
Numbers are read back from the text that is written for them: a whole number as itself, as long as it has
no more digits than one is read from, and a binary64 number as itself, whether its shortest digits are
written positionally or with an exponent, and also if it is infinite or no number.
-/

namespace QuestionBoard

def digitValues (cs : List Char) : List Nat := cs.map fun c => c.toNat - '0'.toNat

theorem numberOf_digitValues (cs : List Char) : numberOf (digitValues cs) = Nat.ofDigitChars 10 cs 0 := by
  rw [numberOf, digitValues, List.foldl_map, Nat.ofDigitChars_eq_foldl]

theorem ofDigitChars_zeros (k : Nat) (cs : List Char) (n : Nat) :
    Nat.ofDigitChars 10 (List.replicate k '0' ++ cs) n = Nat.ofDigitChars 10 cs (10 ^ k * n) := by
  induction k generalizing n with
  | zero => simp
  | succ k ih =>
      rw [List.replicate_succ, List.cons_append, Nat.ofDigitChars_cons, ih, Nat.pow_succ, Nat.mul_assoc]
      rfl

theorem isDigit_of_mem_replicate (k : Nat) : ∀ c ∈ List.replicate k '0', c.isDigit = true := by
  intro c hc
  rw [(List.mem_replicate.mp hc).2]
  rfl

theorem Digits.append_left {cs ds : List Char} (h : Digits cs) (hds : ∀ c ∈ ds, c.isDigit = true) :
    Digits (cs ++ ds) :=
  ⟨by simp [h.1], fun c hc => (List.mem_append.mp hc).elim (h.2 c) (hds c)⟩

theorem Digits.append_right {cs ds : List Char} (hcs : ∀ c ∈ cs, c.isDigit = true) (h : Digits ds) :
    Digits (cs ++ ds) :=
  ⟨by simp [h.1], fun c hc => (List.mem_append.mp hc).elim (hcs c) (h.2 c)⟩

theorem Digits.exists_cons {ds : List Char} (h : Digits ds) (cs : List Char) :
    ∃ c cs', ds ++ cs = c :: cs' ∧ c.isDigit = true := by
  obtain ⟨c, ds', rfl⟩ := List.exists_cons_of_ne_nil h.1
  exact ⟨c, ds' ++ cs, rfl, h.2 c List.mem_cons_self⟩

theorem isPrintable_of_isDigit {c : Char} (h : c.isDigit = true) : IsPrintable c := by
  rw [isPrintable_iff]
  have := isDigit_iff.mp h
  omega

theorem ite_natAbs (n : Int) : (if decide (n < 0) then -(n.natAbs : Int) else n.natAbs) = n := by
  rcases lt_or_ge n 0 with hneg | hpos
  · rw [decide_eq_true hneg, if_pos rfl, Int.ofNat_natAbs_of_nonpos hneg.le, Int.neg_neg]
  · rw [decide_eq_false (Int.not_lt.mpr hpos), if_neg Bool.false_ne_true, Int.natAbs_of_nonneg hpos]

namespace Json

def EndsDigits (rest : List Char) : Prop := ∀ c ∈ rest.head?, c.isDigit = false

/-- Whether nothing comes next that could go on a number. -/
def EndsNumber (rest : List Char) : Prop :=
  ∀ c ∈ rest.head?, c.isDigit = false ∧ c ≠ '.' ∧ c ≠ 'e' ∧ c ≠ 'E'

/-- Whether digits are a zero by itself or begin with another digit. -/
def IsWhole (ds : List Char) : Prop := Digits ds ∧ (ds = ['0'] ∨ ds.head? ≠ some '0')

theorem isWhole_toDigits (n : Nat) : IsWhole (Nat.toDigits 10 n) := by
  refine ⟨digits_toDigits n, ?_⟩
  rcases Nat.eq_zero_or_pos n with rfl | hn
  · exact Or.inl (Nat.toDigits_zero 10)
  · obtain ⟨c, cs, hc, hcs⟩ := head_toDigits hn.ne'
    rw [hcs]
    exact Or.inr fun he => hc (Option.some.inj he)

variable {rest : List Char}

theorem EndsNumber.endsDigits (h : EndsNumber rest) : EndsDigits rest := fun c hc => (h c hc).1

/-! ### Parts of a number -/

theorem spanDigits_append {ds : List Char} (hds : ∀ c ∈ ds, c.isDigit = true) (hrest : EndsDigits rest) :
    spanDigits (ds ++ rest) = (digitValues ds, rest) := by
  have hstop : rest.takeWhile (fun c => (asciiDigit? c).isSome) = [] := by
    cases rest with
    | nil => rfl
    | cons c rest =>
        rw [List.takeWhile_cons, isSome_asciiDigit?, hrest c rfl]
        rfl
  have hspan : (ds ++ rest).takeWhile (fun c => (asciiDigit? c).isSome) = ds := by
    rw [List.takeWhile_append_of_pos, hstop, List.append_nil]
    intro c hc
    rw [isSome_asciiDigit?, hds c hc]
  simp only [spanDigits, hspan, List.drop_left, filterMap_asciiDigit? hds, digitValues]

theorem readWhole_append {ds : List Char} (hds : IsWhole ds) (hrest : EndsDigits rest) :
    readWhole (ds ++ rest) = (digitValues ds, rest) := by
  obtain ⟨hdigits, rfl | hhead⟩ := hds
  · rfl
  · obtain ⟨c, cs, rfl⟩ := List.exists_cons_of_ne_nil hdigits.1
    rw [List.cons_append, readWhole, ← List.cons_append, spanDigits_append hdigits.2 hrest]
    exact fun _ he => hhead (congrArg some (List.cons.inj he).1)

theorem readPlaces_of_endsNumber (h : EndsNumber rest) : readPlaces rest = (none, rest) := by
  cases rest with
  | nil => rfl
  | cons c rest =>
      rw [readPlaces]
      exact fun rest' he => (h c rfl).2.1 (List.cons.inj he).1

theorem readPlaces_append {ds : List Char} (hds : Digits ds) (hrest : EndsDigits rest) :
    readPlaces ('.' :: (ds ++ rest)) = (some (digitValues ds), rest) := by
  rw [readPlaces, spanDigits_append hds.2 hrest]
  obtain ⟨c, cs, rfl⟩ := List.exists_cons_of_ne_nil hds.1
  rfl

theorem readExponent_of_endsNumber (h : EndsNumber rest) : readExponent rest = (none, rest) := by
  cases rest with
  | nil => rfl
  | cons c rest =>
      obtain ⟨-, -, hsmall, hlarge⟩ := h c rfl
      rw [readExponent, if_neg]
      simp [hsmall, hlarge]

theorem readExponent_append {sign : Char} {ds : List Char} {negative : Bool} (hds : Digits ds)
    (hsign : signed (sign :: (ds ++ rest)) = (negative, ds ++ rest)) (hrest : EndsDigits rest) :
    readExponent ('e' :: sign :: (ds ++ rest)) =
      (some (if negative then -(Nat.ofDigitChars 10 ds 0 : Int) else Nat.ofDigitChars 10 ds 0), rest) := by
  have he : ('e' == 'e' || 'e' == 'E') = true := rfl
  rw [readExponent, if_pos he, hsign]
  simp only [spanDigits_append hds.2 hrest]
  obtain ⟨c, cs, rfl⟩ := List.exists_cons_of_ne_nil hds.1
  rw [← numberOf_digitValues]
  rfl

/-- The sign and the digits of an exponent. -/
theorem toList_exponentText (e : Int) : ∃ sign ds, (Binary64.exponentText e).toList = sign :: ds ∧
    IsPrintable sign ∧ Digits ds ∧ Nat.ofDigitChars 10 ds 0 = e.natAbs ∧
      ∀ rest, signed (sign :: (ds ++ rest)) = (decide (e < 0), ds ++ rest) := by
  obtain ⟨k, hk⟩ : ∃ k, 2 - (decimalDigits e.natAbs).length = k := ⟨_, rfl⟩
  have hpadded : (zeroPadded 2 (decimalDigits e.natAbs)).toList =
      List.replicate k '0' ++ Nat.toDigits 10 e.natAbs := by
    rw [zeroPadded, String.toList_append, String.toList_ofList, hk, decimalDigits, String.toList_ofList]
  have hdigits := (digits_toDigits e.natAbs).append_right (isDigit_of_mem_replicate k)
  refine ⟨if e < 0 then '-' else '+', _, ?_, ?_, hdigits, ?_, ?_⟩
  · rw [Binary64.exponentText, String.toList_append, hpadded]
    split <;> rfl
  · split <;> decide
  · rw [ofDigitChars_zeros, Nat.mul_zero, Nat.ofDigitChars_ten_toDigits]
  · intro rest
    split
    · next he => simp [signed, he]
    · next he => simp [signed, he]

/-! ### Numbers without their sign -/

theorem readNumber_int {ds : List Char} (negative : Bool) (hds : IsWhole ds)
    (hlength : ds.length ≤ maxIntegerDigits) (hrest : EndsNumber rest) :
    readNumber negative (ds ++ rest) =
      .ok (.int (if negative then -(Nat.ofDigitChars 10 ds 0 : Int) else Nat.ofDigitChars 10 ds 0), rest) := by
  have hne : (digitValues ds).isEmpty = false := by
    rw [digitValues, List.isEmpty_map, List.isEmpty_eq_false_iff]
    exact hds.1.1
  have hlength' : ¬maxIntegerDigits < (digitValues ds).length := by
    rw [digitValues, List.length_map]
    exact Nat.not_lt.mpr hlength
  simp only [readNumber, readWhole_append hds hrest.endsDigits, readPlaces_of_endsNumber hrest,
    readExponent_of_endsNumber hrest, hne, numberOf_digitValues]
  rw [if_neg hlength']
  rfl

/-- A number with places or an exponent is read as a binary64 number. -/
theorem readNumber_float {cs ds left left' : List Char} {places : Option (List Nat)} {exponent : Option Int}
    (negative : Bool) (hds : Digits ds) (hwhole : readWhole cs = (digitValues ds, left))
    (hplaces : readPlaces left = (places, left')) (hexponent : readExponent left' = (exponent, rest))
    (hsome : (places.isNone && exponent.isNone) = false) :
    readNumber negative cs = .ok (.float (Binary64.ofDecimal negative
      (numberOf (digitValues ds ++ places.getD [])) (exponent.getD 0 - (places.getD []).length)), rest) := by
  have hne : (digitValues ds).isEmpty = false := by
    rw [digitValues, List.isEmpty_map, List.isEmpty_eq_false_iff]
    exact hds.1
  simp only [readNumber, hwhole, hplaces, hexponent, hne, hsome]
  rfl

/-- Whether a text begins with a digit, is printable, and is read as decimal digits with an exponent. -/
structure SpellsDecimal (cs : List Char) (digits : Nat) (exponent : Int) : Prop where
  head : ∃ c cs', cs = c :: cs' ∧ c.isDigit = true
  printable : ∀ c ∈ cs, IsPrintable c
  reads : ∀ negative rest, EndsNumber rest → readNumber negative (cs ++ rest) =
    .ok (.float (Binary64.ofDecimal negative digits exponent), rest)

theorem endsDigits_cons {c : Char} (h : c.isDigit = false) (cs : List Char) : EndsDigits (c :: cs) := by
  intro d hd
  obtain rfl := Option.some.inj hd
  exact h

/-- Digits before and after a point. -/
theorem spellsDecimal_point {ds ps : List Char} (hds : IsWhole ds) (hps : Digits ps) :
    SpellsDecimal (ds ++ '.' :: ps) (Nat.ofDigitChars 10 (ds ++ ps) 0) (-ps.length) := by
  refine ⟨hds.1.exists_cons _, ?_, fun negative rest hrest => ?_⟩
  · simp only [List.forall_mem_append, List.forall_mem_cons]
    exact ⟨fun c hc => isPrintable_of_isDigit (hds.1.2 c hc), by decide,
      fun c hc => isPrintable_of_isDigit (hps.2 c hc)⟩
  · have hwhole := readWhole_append hds (endsDigits_cons (c := '.') rfl (ps ++ rest))
    rw [List.append_assoc, List.cons_append]
    rw [readNumber_float negative hds.1 hwhole (readPlaces_append hps hrest.endsDigits)
      (readExponent_of_endsNumber hrest) rfl]
    simp only [Option.getD_some, Option.getD_none, digitValues, ← List.map_append, List.length_map]
    rw [← digitValues, numberOf_digitValues, Int.zero_sub]

/-- Digits with an exponent, and with a point if there are any after it. -/
theorem spellsDecimal_exponent {ds ps : List Char} (hds : IsWhole ds) (hps : ∀ c ∈ ps, c.isDigit = true)
    (e : Int) : SpellsDecimal (ds ++ ((if ps.isEmpty then [] else '.' :: ps) ++
      'e' :: (Binary64.exponentText e).toList)) (Nat.ofDigitChars 10 (ds ++ ps) 0) (e - ps.length) := by
  obtain ⟨sign, es, htext, hsign, hes, hvalue, hsigned⟩ := toList_exponentText e
  rw [htext]
  refine ⟨hds.1.exists_cons _, ?_, fun negative rest hrest => ?_⟩
  · have hpoint : ∀ c ∈ (if ps.isEmpty then [] else '.' :: ps), IsPrintable c := by
      split
      · simp
      · simp only [List.forall_mem_cons]
        exact ⟨by decide, fun c hc => isPrintable_of_isDigit (hps c hc)⟩
    simp only [List.forall_mem_append, List.forall_mem_cons]
    exact ⟨fun c hc => isPrintable_of_isDigit (hds.1.2 c hc), hpoint, by decide, hsign,
      fun c hc => isPrintable_of_isDigit (hes.2 c hc)⟩
  · have hexponent := readExponent_append hes (hsigned rest) hrest.endsDigits
    rw [hvalue, ite_natAbs] at hexponent
    have hstop : EndsDigits ('e' :: sign :: (es ++ rest)) := endsDigits_cons rfl _
    simp only [List.append_assoc, List.cons_append]
    cases ps with
    | nil =>
        have hplaces : readPlaces ('e' :: sign :: (es ++ rest)) = (none, 'e' :: sign :: (es ++ rest)) := rfl
        refine (readNumber_float negative hds.1 (readWhole_append hds hstop) hplaces hexponent rfl).trans ?_
        simp [numberOf_digitValues]
    | cons p ps =>
        have hplaces := readPlaces_append ⟨List.cons_ne_nil p ps, hps⟩ hstop
        refine (readNumber_float negative hds.1
          (readWhole_append hds (endsDigits_cons (c := '.') rfl _)) hplaces hexponent rfl).trans ?_
        simp only [Option.getD_some, digitValues, ← List.map_append, List.length_map]
        rw [← digitValues, numberOf_digitValues]

/-- Zeros may be taken from the digits. -/
theorem SpellsDecimal.of_mul_pow {cs : List Char} {digits k : Nat} {e : Int}
    (h : SpellsDecimal cs (digits * 10 ^ k) e) : SpellsDecimal cs digits (e + k) := by
  refine ⟨h.head, h.printable, fun negative rest hrest => ?_⟩
  rw [h.reads negative rest hrest, Binary64.ofDecimal_mul_pow]

theorem spellsDecimal_scientific {c : Binary64.Digits} (hd : 0 < c.digits) :
    SpellsDecimal c.scientific.toList c.digits c.exponent := by
  obtain ⟨first, ps, hfirst, hdigits⟩ := head_toDigits hd.ne'
  have hall := (hdigits ▸ digits_toDigits c.digits).2
  simp only [List.forall_mem_cons] at hall
  have hwhole : IsWhole [first] := by
    refine ⟨⟨List.cons_ne_nil first [], ?_⟩, Or.inr fun he => hfirst (Option.some.inj he)⟩
    simpa using hall.1
  have hspells := spellsDecimal_exponent hwhole hall.2 (c.exponent + ps.length)
  have hvalue : Nat.ofDigitChars 10 ([first] ++ ps) 0 = c.digits := by
    rw [List.singleton_append, ← hdigits, Nat.ofDigitChars_ten_toDigits]
  rw [hvalue, Int.add_sub_cancel] at hspells
  have htext : c.scientific.toList = [first] ++ ((if ps.isEmpty then [] else '.' :: ps) ++
      'e' :: (Binary64.exponentText (c.exponent + ps.length)).toList) := by
    simp [Binary64.Digits.scientific, hdigits]
  rw [htext]
  exact hspells

/-- The digits before the point, of digits with zeros before them where there are too few. -/
theorem isWhole_of_padded {z : Nat} {ds ws ps : List Char} (hds : Digits ds) (hhead : ds.head? ≠ some '0')
    (h : List.replicate z '0' ++ ds = ws ++ ps) (hne : ws ≠ []) (hz : z = 0 ∨ ws.length = 1) : IsWhole ws := by
  have hall : ∀ c ∈ ws, c.isDigit = true := fun c hc =>
    (hds.append_right (isDigit_of_mem_replicate z)).2 c (h ▸ List.mem_append_left ps hc)
  refine ⟨⟨hne, hall⟩, ?_⟩
  obtain ⟨c, cs, rfl⟩ := List.exists_cons_of_ne_nil hne
  cases z with
  | zero =>
      right
      rw [List.replicate_zero, List.nil_append] at h
      rw [h] at hhead
      exact hhead
  | succ z =>
      obtain rfl : cs = [] := List.length_eq_zero_iff.mp (Nat.succ.inj (hz.resolve_left (Nat.succ_ne_zero z)))
      rw [List.replicate_succ, List.cons_append] at h
      obtain ⟨rfl, -⟩ := List.cons.inj h
      exact Or.inl rfl

/-- Digits with zeros after them, before a point and one more zero. -/
theorem spellsDecimal_zeros {ds : List Char} (hds : Digits ds) (hhead : ds.head? ≠ some '0') (k : Nat) :
    SpellsDecimal (ds ++ List.replicate k '0' ++ ['.', '0']) (Nat.ofDigitChars 10 ds 0) k := by
  have hwhole : IsWhole (ds ++ List.replicate k '0') := by
    refine ⟨hds.append_left (isDigit_of_mem_replicate k), Or.inr ?_⟩
    obtain ⟨c, cs, rfl⟩ := List.exists_cons_of_ne_nil hds.1
    exact hhead
  have hzero : Digits ['0'] := digits_toDigits 0
  have hvalue : Nat.ofDigitChars 10 (ds ++ List.replicate k '0' ++ ['0']) 0 =
      Nat.ofDigitChars 10 ds 0 * 10 ^ (k + 1) := by
    have hlast : List.replicate k '0' ++ ['0'] = List.replicate (k + 1) '0' := List.replicate_succ'.symm
    rw [List.append_assoc, hlast, Nat.ofDigitChars_append, ← List.append_nil (List.replicate _ _),
      ofDigitChars_zeros, Nat.ofDigitChars_nil, Nat.mul_comm]
  have hplaces : -((['0'] : List Char).length : Int) + ((k + 1 : Nat) : Int) = k := by
    simp
  have hspells := spellsDecimal_point hwhole hzero
  rw [hvalue] at hspells
  rw [← hplaces]
  exact hspells.of_mul_pow

/-- Digits of which the last ones stand after a point, with zeros before them where there are too few. -/
theorem spellsDecimal_padded {ds padded : List Char} {k : Nat} (hds : Digits ds) (hhead : ds.head? ≠ some '0')
    (hk : 0 < k) (hpadded : List.replicate (k + 1 - ds.length) '0' ++ ds = padded) :
    SpellsDecimal (padded.take (padded.length - k) ++ '.' :: padded.drop (padded.length - k))
      (Nat.ofDigitChars 10 ds 0) (-k) := by
  have hlength : padded.length = (k + 1 - ds.length) + ds.length := by
    rw [← hpadded, List.length_append, List.length_replicate]
  obtain ⟨ws, ps, hjoin, hws, hps⟩ : ∃ ws ps, padded = ws ++ ps ∧ ws.length = padded.length - k ∧
      ps.length = k :=
    ⟨padded.take (padded.length - k), padded.drop (padded.length - k), (List.take_append_drop _ _).symm,
      by rw [List.length_take]; omega, by rw [List.length_drop]; omega⟩
  have hwhole : IsWhole ws :=
    isWhole_of_padded hds hhead (hpadded.trans hjoin) (List.ne_nil_of_length_pos (by omega)) (by omega)
  have hplaces : Digits ps := by
    refine ⟨List.ne_nil_of_length_pos (by omega), fun c hc => ?_⟩
    have hall := (hds.append_right (isDigit_of_mem_replicate (k + 1 - ds.length))).2
    rw [hpadded, hjoin] at hall
    exact hall c (List.mem_append_right ws hc)
  have hvalue : Nat.ofDigitChars 10 (ws ++ ps) 0 = Nat.ofDigitChars 10 ds 0 := by
    rw [← hjoin, ← hpadded, ofDigitChars_zeros, Nat.mul_zero]
  have hspells := spellsDecimal_point hwhole hplaces
  rw [hvalue, hps] at hspells
  rw [← hws, hjoin, List.take_left, List.drop_left]
  exact hspells

theorem spellsDecimal_positional {c : Binary64.Digits} (hd : 0 < c.digits) :
    SpellsDecimal c.positional.toList c.digits c.exponent := by
  have hdigits := digits_toDigits c.digits
  have hvalue : Nat.ofDigitChars 10 (Nat.toDigits 10 c.digits) 0 = c.digits := Nat.ofDigitChars_ten_toDigits
  have hhead : (Nat.toDigits 10 c.digits).head? ≠ some '0' := by
    obtain ⟨first, ds, hfirst, hcons⟩ := head_toDigits hd.ne'
    rw [hcons]
    exact fun he => hfirst (Option.some.inj he)
  rw [Binary64.Digits.positional]
  dsimp only
  split
  · next he =>
      have hspells := spellsDecimal_zeros hdigits hhead c.exponent.toNat
      rw [hvalue, Int.toNat_of_nonneg he] at hspells
      rw [String.toList_append, String.toList_ofList]
      exact hspells
  · next he =>
      have hspells := spellsDecimal_padded (k := (-c.exponent).toNat) hdigits hhead (by omega) rfl
      rw [hvalue, Int.toNat_of_nonneg (by omega), Int.neg_neg] at hspells
      simp only [String.toList_append, String.toList_ofList, List.append_assoc]
      exact hspells

/-! ### Words and numbers with their sign -/

/-- Whether a text begins with a letter, a digit or a minus, is printable, and is read as a value that is
neither a string nor an array or object. -/
structure SpellsScalar (cs : List Char) (value : Json) : Prop where
  head : ∃ c cs', cs = c :: cs' ∧ (c.isAlphanum = true ∨ c = '-')
  printable : ∀ c ∈ cs, IsPrintable c
  reads : ∀ rest, EndsNumber rest → readScalar (cs ++ rest) = .ok (value, rest)

def words : List (String × Json) :=
  [("null", .null), ("true", .bool true), ("false", .bool false), ("NaN", .float .notANumber),
    ("Infinity", .float (.infinite false)), ("-Infinity", .float (.infinite true))]

theorem dropWord?_of_ne {word : String} {c d : Char} {ds : List Char} (cs : List Char)
    (hword : word.toList = d :: ds) (hne : d ≠ c) : dropWord? word (c :: cs) = none := by
  rw [dropWord?, hword, if_neg]
  simp [hne]

theorem readScalar_digit {c : Char} (hc : c.isDigit = true) (cs : List Char) :
    readScalar (c :: cs) = readNumber false (c :: cs) := by
  have hne : ∀ d : Char, d.isDigit = false → d ≠ c := by
    rintro d hd rfl
    exact absurd hc (Bool.eq_false_iff.mp hd)
  have hwords : ∀ entry ∈ words, (dropWord? entry.1 (c :: cs)).map (fun rest => (entry.2, rest)) = none := by
    simp only [words, List.forall_mem_cons, Option.map_eq_none_iff]
    exact ⟨dropWord?_of_ne cs rfl (hne 'n' rfl), dropWord?_of_ne cs rfl (hne 't' rfl),
      dropWord?_of_ne cs rfl (hne 'f' rfl), dropWord?_of_ne cs rfl (hne 'N' rfl),
      dropWord?_of_ne cs rfl (hne 'I' rfl), dropWord?_of_ne cs rfl (hne '-' rfl), by simp⟩
  have hnone := List.findSome?_eq_none_iff.mpr hwords
  rw [words] at hnone
  simp only [readScalar, hnone]
  split
  · next heq => exact absurd (List.cons.inj heq).1.symm (hne '-' rfl)
  · rfl

theorem readScalar_minus {c : Char} (hc : c.isDigit = true) (cs : List Char) :
    readScalar ('-' :: c :: cs) = readNumber true (c :: cs) := by
  have hne : 'I' ≠ c := by
    rintro rfl
    exact absurd hc (by decide)
  have hinfinity : dropWord? "-Infinity" ('-' :: c :: cs) = none := by
    have hword : "-Infinity".toList = '-' :: 'I' :: "nfinity".toList := rfl
    rw [dropWord?, hword, if_neg]
    simp [hne]
  simp only [readScalar, List.findSome?, hinfinity]
  rfl

theorem spellsScalar_signed {text : String} (negative : Bool) {value : Json}
    (hhead : ∃ c cs, text.toList = c :: cs ∧ c.isDigit = true) (hprintable : ∀ c ∈ text.toList, IsPrintable c)
    (hreads : ∀ rest, EndsNumber rest → readNumber negative (text.toList ++ rest) = .ok (value, rest)) :
    SpellsScalar ((if negative then "-" else "") ++ text).toList value := by
  obtain ⟨c, cs, htext, hc⟩ := hhead
  rw [String.toList_append]
  rw [htext] at hprintable hreads ⊢
  cases negative with
  | false =>
      have halphanum : c.isAlphanum = true := by rw [Char.isAlphanum, hc, Bool.or_true]
      refine ⟨⟨c, cs, rfl, Or.inl halphanum⟩, hprintable, fun rest hrest => ?_⟩
      exact (readScalar_digit hc (cs ++ rest)).trans (hreads rest hrest)
  | true =>
      have hminus : IsPrintable '-' := by decide
      have hall := List.forall_mem_cons.mpr ⟨hminus, hprintable⟩
      refine ⟨⟨'-', c :: cs, rfl, Or.inr rfl⟩, hall, fun rest hrest => ?_⟩
      exact (readScalar_minus hc (cs ++ rest)).trans (hreads rest hrest)

theorem spellsScalar_int {n : Int} (h : (Nat.toDigits 10 n.natAbs).length ≤ maxIntegerDigits) :
    SpellsScalar (decimalText n).toList (.int n) := by
  have htext : decimalText n = (if decide (n < 0) then "-" else "") ++ decimalDigits n.natAbs := by
    rw [decimalText]
    by_cases hn : n < 0
    · rw [if_pos hn, if_pos (decide_eq_true hn)]
    · rw [if_neg hn, if_neg (by simp [hn]), String.empty_append]
  have hdigits : (decimalDigits n.natAbs).toList = Nat.toDigits 10 n.natAbs := by
    rw [decimalDigits, String.toList_ofList]
  have hwhole := isWhole_toDigits n.natAbs
  rw [htext]
  refine spellsScalar_signed _ ?_ ?_ fun rest hrest => ?_
  · have hhead := hwhole.1.exists_cons []
    rw [List.append_nil] at hhead
    rw [hdigits]
    exact hhead
  · rw [hdigits]
    exact fun c hc => isPrintable_of_isDigit (hwhole.1.2 c hc)
  · rw [hdigits, readNumber_int _ hwhole h hrest, Nat.ofDigitChars_ten_toDigits, ite_natAbs]

theorem exists_spellsDecimal {m : Nat} {e : Int} (h : Binary64.Admissible m e) :
    ∃ text digits exponent, (∀ negative, (Binary64.finite negative m e h).display =
      (if negative then "-" else "") ++ text) ∧ SpellsDecimal text.toList digits exponent ∧
        Binary64.ofDecimal false digits exponent = .finite false m e h := by
  rcases Nat.eq_zero_or_pos m with rfl | hm
  · obtain rfl : e = -1074 := h.2.2.2.resolve_left (by decide)
    refine ⟨"0.0", 0, -1, fun negative => rfl, ?_, rfl⟩
    exact spellsDecimal_point (isWhole_toDigits 0) (digits_toDigits 0)
  · have hread := Binary64.readsAs_shortest h hm
    have hd := Binary64.Digits.pos_of_readsAs hm hread
    obtain ⟨c, hc⟩ : ∃ c, Binary64.shortest (.finite false m e h) m e = c := ⟨_, rfl⟩
    rw [hc] at hread hd
    obtain ⟨text, htext, hspells⟩ : ∃ text, (∀ negative, (Binary64.finite negative m e h).display =
        (if negative then "-" else "") ++ text) ∧ SpellsDecimal text.toList c.digits c.exponent := by
      simp only [Binary64.display, if_neg hm.ne', hc]
      split
      · exact ⟨c.positional, fun _ => rfl, spellsDecimal_positional hd⟩
      · exact ⟨c.scientific, fun _ => rfl, spellsDecimal_scientific hd⟩
    exact ⟨text, c.digits, c.exponent, htext, hspells, Binary64.Digits.readsAs_iff.mp hread⟩

theorem spellsScalar_word {word : String} {value : Json} (h : (word, value) ∈ words) :
    SpellsScalar word.toList value := by
  simp only [words, List.mem_cons, List.not_mem_nil, or_false, Prod.mk.injEq] at h
  rcases h with ⟨rfl, rfl⟩ | ⟨rfl, rfl⟩ | ⟨rfl, rfl⟩ | ⟨rfl, rfl⟩ | ⟨rfl, rfl⟩ | ⟨rfl, rfl⟩
  all_goals exact ⟨⟨_, _, rfl, by decide⟩, isPrintable_of_all (by decide), fun _ _ => rfl⟩

theorem spellsScalar_bool (b : Bool) : SpellsScalar (if b then "true" else "false").toList (.bool b) := by
  cases b with
  | false => exact spellsScalar_word (by simp [words])
  | true => exact spellsScalar_word (by simp [words])

theorem spellsScalar_float (x : Binary64) : SpellsScalar (floatText x).toList (.float x) := by
  cases x with
  | notANumber => exact spellsScalar_word (by simp [words, floatText])
  | infinite negative =>
      cases negative with
      | false => exact spellsScalar_word (by simp [words, floatText])
      | true => exact spellsScalar_word (by simp [words, floatText])
  | finite negative m e h =>
      obtain ⟨text, digits, exponent, htext, hspells, hvalue⟩ := exists_spellsDecimal h
      have hvalue' : Binary64.ofDecimal negative digits exponent = .finite negative m e h := by
        cases negative with
        | false => exact hvalue
        | true => exact (Binary64.neg_ofDecimal false digits exponent).symm.trans (congrArg Binary64.neg hvalue)
      change SpellsScalar (Binary64.display _).toList _
      rw [htext]
      refine spellsScalar_signed negative hspells.head hspells.printable fun rest hrest => ?_
      rw [hspells.reads negative rest hrest, hvalue']

end Json

end QuestionBoard
