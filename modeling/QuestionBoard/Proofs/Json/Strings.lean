import Mathlib.Tactic.SplitIfs
import QuestionBoard.Json.Reader
import QuestionBoard.Json.Writer
import QuestionBoard.Proofs.Text.Pairs

/-!
Strings are written in printable ASCII characters and read back with the halves in them paired. A character
is written as itself, with a backslash and a letter, or as one or two code units of four hexadecimal digits,
and half of a pair as one unit. A reader takes two units for one character if they make one, whether they
were written for a character or for two halves side by side.
-/

namespace QuestionBoard

/-- Whether a character is one of the printable ASCII characters. -/
def IsPrintable (c : Char) : Prop := ' ' ≤ c ∧ c ≤ '~'

instance (c : Char) : Decidable (IsPrintable c) := inferInstanceAs (Decidable (_ ∧ _))

theorem isPrintable_iff {c : Char} : IsPrintable c ↔ 0x20 ≤ c.toNat ∧ c.toNat ≤ 0x7E := by
  rw [IsPrintable, Char.le_def, Char.le_def, UInt32.le_iff_toNat_le, UInt32.le_iff_toNat_le]
  exact Iff.rfl

theorem isPrintable_of_all {cs : List Char} (h : cs.all (fun c => decide (IsPrintable c)) = true) :
    ∀ c ∈ cs, IsPrintable c := fun c hc => of_decide_eq_true (List.all_eq_true.mp h c hc)

/-! ### Hexadecimal digits -/

theorem hexDigit?_digitChar : ∀ d < 16, hexDigit? (Nat.digitChar d) = some d := by decide

theorem isPrintable_digitChar : ∀ d < 16, IsPrintable (Nat.digitChar d) := by decide

/-- The hexadecimal digits of a number with zeros before them. -/
def paddedDigits (width n : Nat) : List Char :=
  List.replicate (width - (Nat.toDigits 16 n).length) '0' ++ Nat.toDigits 16 n

theorem paddedDigits_one {n : Nat} (h : n < 16) : paddedDigits 1 n = [Nat.digitChar n] := by
  rw [paddedDigits, Nat.toDigits_of_lt_base h]
  rfl

theorem paddedDigits_succ {width : Nat} (hwidth : 0 < width) (n : Nat) :
    paddedDigits (width + 1) n = paddedDigits width (n / 16) ++ [Nat.digitChar (n % 16)] := by
  rw [paddedDigits, paddedDigits]
  rcases Nat.lt_or_ge n 16 with hn | hn
  · rw [Nat.toDigits_of_lt_base hn, Nat.div_eq_of_lt hn, Nat.mod_eq_of_lt hn, Nat.toDigits_zero]
    obtain ⟨width, rfl⟩ : ∃ w, width = w + 1 := ⟨width - 1, by omega⟩
    simp [List.replicate_succ']
  · rw [Nat.toDigits_of_base_le (by decide) hn, List.length_append, List.length_singleton,
      Nat.add_sub_add_right, List.append_assoc]

theorem toList_hexadecimal_four {n : Nat} (h : n < 0x10000) : (hexadecimal 4 n).toList =
    [Nat.digitChar (n / 16 / 16 / 16), Nat.digitChar (n / 16 / 16 % 16), Nat.digitChar (n / 16 % 16),
      Nat.digitChar (n % 16)] := by
  change (String.ofList (paddedDigits 4 n)).toList = _
  rw [String.toList_ofList, paddedDigits_succ (by decide), paddedDigits_succ (by decide),
    paddedDigits_succ (by decide), paddedDigits_one (by omega)]
  rfl

theorem isPrintable_hexadecimal_four {n : Nat} (h : n < 0x10000) :
    ∀ c ∈ (hexadecimal 4 n).toList, IsPrintable c := by
  rw [toList_hexadecimal_four h]
  simp only [List.forall_mem_cons]
  exact ⟨isPrintable_digitChar _ (by omega), isPrintable_digitChar _ (by omega),
    isPrintable_digitChar _ (by omega), isPrintable_digitChar _ (by omega), by simp⟩

namespace Json

theorem toList_unitEscape {unit : Nat} (h : unit < 0x10000) : ∃ a b c d,
    (unitEscape unit).toList = ['\\', 'u', a, b, c, d] ∧ codeUnit? a b c d = some unit := by
  refine ⟨_, _, _, _, by rw [unitEscape, String.toList_append, toList_hexadecimal_four h]; rfl, ?_⟩
  rw [codeUnit?, hexDigit?_digitChar _ (by omega), hexDigit?_digitChar _ (by omega),
    hexDigit?_digitChar _ (by omega), hexDigit?_digitChar _ (by omega)]
  simp only [Option.bind_eq_bind, Option.bind_some, Option.pure_def, Option.some.injEq]
  omega

theorem isPrintable_unitEscape {unit : Nat} (h : unit < 0x10000) :
    ∀ c ∈ (unitEscape unit).toList, IsPrintable c := by
  have hstart : ∀ c ∈ "\\u".toList, IsPrintable c := isPrintable_of_all (by decide)
  rw [unitEscape, String.toList_append]
  intro c hc
  exact (List.mem_append.mp hc).elim (hstart c) (isPrintable_hexadecimal_four h c)

/-! ### Characters -/

theorem isPrintable_escapedChar (c : Char) : ∀ d ∈ (escapedChar c).toList, IsPrintable d := by
  have hvalid : c.toNat < 0xD800 ∨ 0xDFFF < c.toNat ∧ c.toNat < 0x110000 := c.valid
  rw [escapedChar]
  split_ifs with _ _ _ _ _ _ _ hplain hunit
  · exact isPrintable_of_all (by decide)
  · exact isPrintable_of_all (by decide)
  · exact isPrintable_of_all (by decide)
  · exact isPrintable_of_all (by decide)
  · exact isPrintable_of_all (by decide)
  · exact isPrintable_of_all (by decide)
  · exact isPrintable_of_all (by decide)
  · intro d hd
    rw [Char.toString_eq_singleton, String.toList_singleton, List.mem_singleton] at hd
    rw [hd, isPrintable_iff]
    omega
  · exact isPrintable_unitEscape hunit
  · intro d hd
    rw [String.toList_append, List.mem_append] at hd
    exact hd.elim (isPrintable_unitEscape (by omega) d) (isPrintable_unitEscape (by omega) d)

theorem isPrintable_escapedPoint (p : CodePoint) : ∀ d ∈ (escapedPoint p).toList, IsPrintable d := by
  cases p with
  | char c => exact isPrintable_escapedChar c
  | half h =>
      have hcode := h.code_bounds
      exact isPrintable_unitEscape (by omega)

/-! ### Points -/

def withPoint (p : CodePoint) (read : Option (List CodePoint × List Char)) :
    Option (List CodePoint × List Char) := do
  let (points, rest) ← read
  return (p :: points, rest)

theorem readString_letter {letter c : Char} (rest : List Char) (h : letterEscape? letter = some c) :
    readString ('\\' :: letter :: rest) = withPoint (.char c) (readString rest) := by
  have hletter : letter ≠ 'u' := by
    rintro rfl
    cases h
  rw [readString, h]
  · rfl
  · exact fun _ _ _ _ _ _ _ _ _ he => absurd he hletter
  · exact fun _ _ _ _ _ he => absurd he hletter

theorem readString_plain {c : Char} (rest : List Char) (hquote : c ≠ '"') (hslash : c ≠ '\\')
    (h : 0x20 ≤ c.toNat) : readString (c :: rest) = withPoint (.char c) (readString rest) := by
  have hplain : ¬(c == '\\' || decide (c.toNat < 0x20)) = true := by
    simp [hslash, Nat.not_lt.mpr h]
  rw [readString, if_neg hplain]
  · rfl
  · exact hquote
  · exact fun _ _ _ _ _ _ _ _ _ he => absurd he hslash
  · exact fun _ _ _ _ _ he => absurd he hslash
  · exact fun _ _ he => absurd he hslash

/-- Whether what comes next makes no character with a code unit. -/
def Apart (unit : Nat) (rest : List Char) : Prop :=
  ∀ e f g h rest', rest = '\\' :: 'u' :: e :: f :: g :: h :: rest' →
    (codeUnit? e f g h).bind (pairedUnits? unit) = none

/-- A code unit is read by itself if what comes after it makes no character with it. -/
theorem readString_unit {a b c d : Char} {unit : Nat} {rest : List Char} (h : codeUnit? a b c d = some unit)
    (hrest : Apart unit rest) : readString ('\\' :: 'u' :: a :: b :: c :: d :: rest) =
      withPoint (singleUnit unit) (readString rest) := by
  by_cases hnext : ∃ e f g h rest', rest = '\\' :: 'u' :: e :: f :: g :: h :: rest'
  · obtain ⟨e, f, g, k, rest', rfl⟩ := hnext
    rw [readString, h]
    simp only [Option.bind_eq_bind, Option.bind_some, hrest e f g k rest' rfl]
    rfl
  · rw [readString, h]
    · rfl
    · exact fun e f g k rest' he => hnext ⟨e, f, g, k, rest', he⟩

theorem readString_pair {a b c d e f g k char : Char} {high low : Nat} (rest : List Char)
    (hhigh : codeUnit? a b c d = some high) (hlow : codeUnit? e f g k = some low)
    (h : pairedUnits? high low = some char) :
    readString ('\\' :: 'u' :: a :: b :: c :: d :: '\\' :: 'u' :: e :: f :: g :: k :: rest) =
      withPoint (.char char) (readString rest) := by
  rw [readString, hhigh, hlow]
  simp only [Option.bind_eq_bind, Option.bind_some, h]
  rfl

/-! ### One point before others -/

variable {c : Char} {unit : Nat} {rest : List Char}

theorem apart_of_head (h : ∀ cs, rest ≠ '\\' :: 'u' :: cs) : Apart unit rest :=
  fun _ _ _ _ _ he => absurd he (h _)

theorem apart_unit {a b c d : Char} {low : Nat} (hlow : codeUnit? a b c d = some low)
    (h : pairedUnits? unit low = none) : Apart unit ('\\' :: 'u' :: a :: b :: c :: d :: rest) := by
  rintro e f g k rest' ⟨⟩
  rw [hlow, Option.bind_some, h]

theorem pairedUnits?_code (high low : Half) : pairedUnits? high.code low.code = high.joined? low := by
  rw [pairedUnits?, Half.ofCode?_code, Half.ofCode?_code]
  rfl

/-- The code of a character is no half, so no other one makes a character with it. -/
theorem apart_toNat (c : Char) : Apart c.toNat rest := by
  intro e f g k rest' _
  cases codeUnit? e f g k with
  | none => rfl
  | some low =>
      rw [Option.bind_some, pairedUnits?, Half.ofCode?_toNat]
      rfl

/-- No character makes one with a half before it, since the first of its units, if it has two, is a first
half itself. -/
theorem apart_escapedChar (high : Half) (c : Char) : Apart high.code ((escapedChar c).toList ++ rest) := by
  have hvalid : c.toNat < 0xD800 ∨ 0xDFFF < c.toNat ∧ c.toNat < 0x110000 := c.valid
  have hletter : ∀ letter : Char, letter ≠ 'u' → Apart high.code ('\\' :: letter :: rest) := by
    intro letter hne
    exact apart_of_head fun cs he => hne (List.cons.inj (List.cons.inj he).2).1
  rw [escapedChar]
  split_ifs with _ hslash _ _ _ _ _ hplain hunit
  · exact hletter '"' (by decide)
  · exact hletter '\\' (by decide)
  · exact hletter 'n' (by decide)
  · exact hletter 'r' (by decide)
  · exact hletter 't' (by decide)
  · exact hletter 'b' (by decide)
  · exact hletter 'f' (by decide)
  · rw [Char.toString_eq_singleton, String.toList_singleton, List.singleton_append]
    exact apart_of_head fun cs he => hslash (beq_iff_eq.mpr (List.cons.inj he).1)
  · obtain ⟨x, y, z, w, htext, hcode⟩ := toList_unitEscape hunit
    rw [htext]
    refine apart_unit hcode ?_
    rw [pairedUnits?, Half.ofCode?_code, Half.ofCode?_toNat]
    rfl
  · generalize hn : c.toNat - 0x10000 = n
    have hfirst : 0xD800 + n / 0x400 < 0x10000 := by omega
    obtain ⟨x, y, z, w, htext, hcode⟩ := toList_unitEscape hfirst
    obtain ⟨first, -, hunit'⟩ := Half.exists_ofCode? (n := 0xD800 + n / 0x400) (by omega)
    rw [String.toList_append, htext, List.append_assoc]
    simp only [List.cons_append, List.nil_append]
    refine apart_unit hcode ?_
    rw [← hunit', pairedUnits?_code]
    exact Half.joined?_of_low (by omega)

/-- A character is read back, whatever comes after it. -/
theorem readString_escapedChar (c : Char) (rest : List Char) :
    readString ((escapedChar c).toList ++ rest) = withPoint (.char c) (readString rest) := by
  have hvalid : c.toNat < 0xD800 ∨ 0xDFFF < c.toNat ∧ c.toNat < 0x110000 := c.valid
  have hchar : Char.ofNat c.toNat = c := Char.ofNat_toNat c
  rw [escapedChar]
  split_ifs with hquote hslash hline hreturn htab hback hfeed hplain hunit
  · rw [beq_iff_eq.mp hquote]
    exact readString_letter rest rfl
  · rw [beq_iff_eq.mp hslash]
    exact readString_letter rest rfl
  · rw [beq_iff_eq.mp hline]
    exact readString_letter rest rfl
  · rw [beq_iff_eq.mp hreturn]
    exact readString_letter rest rfl
  · rw [beq_iff_eq.mp htab]
    exact readString_letter rest rfl
  · rw [beq_iff_eq.mp hback]
    exact readString_letter rest rfl
  · rw [beq_iff_eq.mp hfeed]
    exact readString_letter rest rfl
  · rw [Char.toString_eq_singleton, String.toList_singleton, List.singleton_append]
    exact readString_plain rest (fun he => hquote (beq_iff_eq.mpr he)) (fun he => hslash (beq_iff_eq.mpr he))
      hplain.1
  · obtain ⟨x, y, z, w, htext, hcode⟩ := toList_unitEscape hunit
    rw [htext]
    refine (readString_unit hcode (apart_toNat c)).trans ?_
    rw [singleUnit, Half.ofCode?_toNat]
    exact congrArg (fun c => withPoint (.char c) (readString rest)) hchar
  · generalize hn : c.toNat - 0x10000 = n
    have hhigh : 0xD800 + n / 0x400 < 0x10000 := by omega
    have hlow : 0xDC00 + n % 0x400 < 0x10000 := by omega
    obtain ⟨x, y, z, w, htext, hcode⟩ := toList_unitEscape hhigh
    obtain ⟨x', y', z', w', htext', hcode'⟩ := toList_unitEscape hlow
    obtain ⟨high, -, hhigh'⟩ := Half.exists_ofCode? (n := 0xD800 + n / 0x400) (by omega)
    obtain ⟨low, -, hlow'⟩ := Half.exists_ofCode? (n := 0xDC00 + n % 0x400) (by omega)
    have hpair : pairedUnits? (0xD800 + n / 0x400) (0xDC00 + n % 0x400) = some c := by
      have hsum : 0x10000 + (high.code - 0xD800) * 0x400 + (low.code - 0xDC00) = c.toNat := by omega
      rw [← hhigh', ← hlow', pairedUnits?_code, Half.joined?_eq (by omega) (by omega), hsum, hchar]
    rw [String.toList_append, htext, htext']
    exact readString_pair rest hcode hcode' hpair

/-- A half is read back, unless it makes a character with what comes after it. -/
theorem readString_half {h : Half} (hrest : Apart h.code rest) :
    readString ((escapedPoint (.half h)).toList ++ rest) = withPoint (.half h) (readString rest) := by
  have hbounds := h.code_bounds
  obtain ⟨x, y, z, w, htext, hcode⟩ := toList_unitEscape (show h.code < 0x10000 by omega)
  rw [escapedPoint, htext]
  refine (readString_unit hcode hrest).trans ?_
  rw [singleUnit, Half.ofCode?_code]

/-! ### Texts -/

/-- Points inside quotes. -/
def escapedPoints (ps : List CodePoint) : List Char := ps.flatMap fun p => (escapedPoint p).toList

theorem escapedPoints_cons (p : CodePoint) (ps : List CodePoint) (rest : List Char) :
    escapedPoints (p :: ps) ++ rest = (escapedPoint p).toList ++ (escapedPoints ps ++ rest) := by
  rw [escapedPoints, List.flatMap_cons, List.append_assoc]
  rfl

theorem toList_stringText (t : Text) : (stringText t).toList = '"' :: (escapedPoints t.points ++ ['"']) := by
  rw [stringText, String.toList_append, String.toList_append, String.toList_join, List.flatMap_map]
  rfl

/-- A string is read back with its halves paired. -/
theorem readString_escapedPoints (ps : List CodePoint) (rest : List Char) :
    readString (escapedPoints ps ++ '"' :: rest) = some (Text.joinedPoints ps, rest) := by
  fun_induction Text.joinedPoints ps with
  | case1 high low ps c hjoined ih =>
      have hhigh := high.code_bounds
      have hlow := low.code_bounds
      obtain ⟨x, y, z, w, htext, hcode⟩ := toList_unitEscape (show high.code < 0x10000 by omega)
      obtain ⟨x', y', z', w', htext', hcode'⟩ := toList_unitEscape (show low.code < 0x10000 by omega)
      rw [escapedPoints_cons, escapedPoints_cons, escapedPoint, escapedPoint, htext, htext']
      refine (readString_pair _ hcode hcode' ((pairedUnits?_code high low).trans hjoined)).trans ?_
      exact congrArg (withPoint (.char c)) ih
  | case2 high low ps hjoined ih =>
      have hlow := low.code_bounds
      obtain ⟨x, y, z, w, htext, hcode⟩ := toList_unitEscape (show low.code < 0x10000 by omega)
      rw [escapedPoints_cons, readString_half, ih]
      · rfl
      · rw [escapedPoints_cons, escapedPoint, htext]
        exact apart_unit hcode ((pairedUnits?_code high low).trans hjoined)
  | case3 p ps hfirst ih =>
      rw [escapedPoints_cons]
      cases p with
      | char c =>
          rw [escapedPoint, readString_escapedChar, ih]
          rfl
      | half h =>
          rw [readString_half, ih]
          · rfl
          · cases ps with
            | nil => exact apart_of_head fun cs he => absurd (List.cons.inj he).1 (by decide)
            | cons q ps =>
                cases q with
                | char c =>
                    rw [escapedPoints_cons]
                    exact apart_escapedChar h c
                | half low => exact absurd rfl (hfirst h low ps rfl)
  | case4 => rw [escapedPoints, List.flatMap_nil, List.nil_append, readString]

theorem isPrintable_stringText (t : Text) : ∀ c ∈ (stringText t).toList, IsPrintable c := by
  have hescaped : ∀ c ∈ escapedPoints t.points, IsPrintable c := by
    intro c hc
    obtain ⟨p, -, hc⟩ := List.mem_flatMap.mp hc
    exact isPrintable_escapedPoint p c hc
  rw [toList_stringText]
  simp only [List.forall_mem_cons, List.forall_mem_append]
  exact ⟨by decide, hescaped, by decide, by simp⟩

end Json

end QuestionBoard
