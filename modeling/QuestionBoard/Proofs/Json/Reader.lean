import Mathlib.Data.List.Basic
import QuestionBoard.Json.Reader

/-!
What reading JSON leaves and what it refuses. A reader leaves an end of the text; where it refuses a whole
number for the number of its digits, these digits are all in the text.
-/

namespace QuestionBoard

theorem isSome_asciiDigit? (c : Char) : (asciiDigit? c).isSome = c.isDigit := by
  rw [asciiDigit?, Char.isDigit]
  by_cases h : '0' ≤ c ∧ c ≤ '9'
  · rw [if_pos h]
    exact ((Bool.and_eq_true _ _).mpr ⟨decide_eq_true h.1, decide_eq_true h.2⟩).symm
  · rw [if_neg h]
    refine (Bool.eq_false_iff.mpr fun hdigit => h ?_).symm
    obtain ⟨hleast, hgreatest⟩ := (Bool.and_eq_true _ _).mp hdigit
    exact ⟨of_decide_eq_true hleast, of_decide_eq_true hgreatest⟩

/-- Whether a number of digits is too large for a whole number, and a text has as many. -/
def HasTooMany (digits : Nat) (cs : List Char) : Prop :=
  maxIntegerDigits < digits ∧ digits ≤ cs.countP Char.isDigit

theorem HasTooMany.of_suffix {digits : Nat} {cs rest : List Char} (h : HasTooMany digits rest)
    (hrest : rest <:+ cs) : HasTooMany digits cs :=
  ⟨h.1, Nat.le_trans h.2 (hrest.sublist.countP_le)⟩

namespace Json

variable {α β : Type} {cs rest : List Char}

/-- Whether a reader leaves an end of the text, or refuses it as malformed or for a number with too many
digits. -/
def ReadsFrom (cs : List Char) : Except ReadError (α × List Char) → Prop
  | .ok (_, rest) => rest <:+ cs
  | .error e => e = .malformed ∨ ∃ digits, e = .integerTooLong digits ∧ HasTooMany digits cs

variable {result : Except ReadError (α × List Char)}

theorem ReadsFrom.of_suffix (h : ReadsFrom rest result) (hrest : rest <:+ cs) : ReadsFrom cs result := by
  obtain e | ⟨value, left⟩ := result
  · exact h.imp_right fun ⟨digits, he, hmany⟩ => ⟨digits, he, hmany.of_suffix hrest⟩
  · exact List.IsSuffix.trans h hrest

theorem ReadsFrom.bind {next : α × List Char → Except ReadError (β × List Char)} (h : ReadsFrom cs result)
    (hnext : ∀ value rest, ReadsFrom rest (next (value, rest))) : ReadsFrom cs (result >>= next) := by
  obtain e | ⟨value, left⟩ := result
  · exact h
  · exact (hnext value left).of_suffix h

theorem readsFrom_malformed : ReadsFrom cs (throw .malformed : Except ReadError (α × List Char)) :=
  Or.inl rfl

theorem skipBlanks_suffix (cs : List Char) : skipBlanks cs <:+ cs := List.dropWhile_suffix _

/-- What is read after a part of a text is an end of what was left. -/
theorem suffix_of_bind {read : Option (α × List Char)} {f : α → β} {value : β}
    (h : (do let (part, left) ← read; return (f part, left)) = some (value, rest))
    (hread : ∀ {part}, read = some (part, rest) → rest <:+ cs) : rest <:+ cs := by
  obtain ⟨⟨part, left⟩, hpart, heq⟩ := Option.bind_eq_some_iff.mp h
  obtain ⟨-, rfl⟩ := Prod.mk.inj (Option.some.inj heq)
  exact hread hpart

theorem readString_suffix {points : List CodePoint} (h : readString cs = some (points, rest)) : rest <:+ cs := by
  induction cs using readString.induct generalizing points rest with
  | case1 => cases h
  | case2 after =>
      obtain ⟨-, rfl⟩ := Prod.mk.inj (Option.some.inj h)
      exact List.suffix_cons _ _
  | case3 a b c d e f g k after ih ih' =>
      rw [readString] at h
      obtain ⟨high, -, h⟩ := Option.bind_eq_some_iff.mp h
      dsimp only at h
      split at h
      · exact suffix_of_bind h fun hpart =>
          (ih hpart).trans ⟨[_, _, _, _, _, _, _, _, _, _, _, _], rfl⟩
      · exact suffix_of_bind h fun hpart => (ih' hpart).trans ⟨[_, _, _, _, _, _], rfl⟩
  | case4 a b c d after _ ih =>
      rw [readString] at h
      · obtain ⟨unit, -, h⟩ := Option.bind_eq_some_iff.mp h
        exact suffix_of_bind h fun hpart => (ih hpart).trans ⟨[_, _, _, _, _, _], rfl⟩
      · assumption
  | case5 letter after _ _ ih =>
      rw [readString] at h
      · obtain ⟨char, -, h⟩ := Option.bind_eq_some_iff.mp h
        exact suffix_of_bind h fun hpart => (ih hpart).trans ⟨[_, _], rfl⟩
      · assumption
      · assumption
  | case6 c after _ _ _ _ hrefused =>
      rw [readString] at h
      · rw [if_pos hrefused] at h
        cases h
      all_goals assumption
  | case7 c after _ _ _ _ hrefused ih =>
      rw [readString] at h
      · rw [if_neg hrefused] at h
        exact suffix_of_bind h fun hpart => (ih hpart).trans (List.suffix_cons c after)
      all_goals assumption

theorem spanDigits_suffix (cs : List Char) : (spanDigits cs).2 <:+ cs := List.drop_suffix _ _

theorem length_spanDigits_le (cs : List Char) : (spanDigits cs).1.length ≤ cs.countP Char.isDigit := by
  have hall : ∀ c ∈ cs.takeWhile fun c => (asciiDigit? c).isSome, c.isDigit = true := fun c hc =>
    isSome_asciiDigit? c ▸ List.all_eq_true.mp List.all_takeWhile c hc
  calc (spanDigits cs).1.length
      ≤ (cs.takeWhile fun c => (asciiDigit? c).isSome).length := List.length_filterMap_le _ _
    _ = (cs.takeWhile fun c => (asciiDigit? c).isSome).countP Char.isDigit :=
        (List.countP_eq_length.mpr hall).symm
    _ ≤ cs.countP Char.isDigit := (List.takeWhile_sublist _).countP_le

theorem exists_sign (cs : List Char) : ∃ sign : List Char, cs = sign ++ (signed cs).2 ∧
    ∀ c ∈ sign, c = '-' ∨ c = '+' := by
  unfold signed
  split
  · exact ⟨['-'], rfl, by simp⟩
  · exact ⟨['+'], rfl, by simp⟩
  · exact ⟨[], rfl, by simp⟩

theorem signed_suffix (cs : List Char) : (signed cs).2 <:+ cs := by
  obtain ⟨sign, hcs, -⟩ := exists_sign cs
  exact ⟨sign, hcs.symm⟩

theorem readPlaces_suffix (cs : List Char) : (readPlaces cs).2 <:+ cs := by
  unfold readPlaces
  split
  · next after =>
      have hspan := spanDigits_suffix after
      split
      · exact List.suffix_refl _
      · next digits left _ hdigits =>
          rw [hdigits] at hspan
          exact hspan.trans (List.suffix_cons _ _)
  · exact List.suffix_refl _

theorem readExponent_suffix (cs : List Char) : (readExponent cs).2 <:+ cs := by
  unfold readExponent
  split
  · next c after =>
      split
      · have hspan := (spanDigits_suffix (signed after).2).trans (signed_suffix after)
        dsimp only
        split
        · exact List.suffix_refl _
        · next digits left _ hdigits =>
            rw [hdigits] at hspan
            exact hspan.trans (List.suffix_cons _ _)
      · exact List.suffix_refl _
  · exact List.suffix_refl _

theorem readWhole_suffix (cs : List Char) : (readWhole cs).2 <:+ cs := by
  unfold readWhole
  split
  · exact List.suffix_cons _ _
  · exact spanDigits_suffix _

theorem hasTooMany_of_readWhole (h : maxIntegerDigits < (readWhole cs).1.length) :
    HasTooMany (readWhole cs).1.length cs := by
  refine ⟨h, ?_⟩
  unfold readWhole at h ⊢
  split at h
  · have hone : ¬maxIntegerDigits < 1 := by decide
    exact absurd h hone
  · exact length_spanDigits_le _

theorem readsFrom_readNumber (negative : Bool) (cs : List Char) : ReadsFrom cs (readNumber negative cs) := by
  have hleft : (readExponent (readPlaces (readWhole cs).2).2).2 <:+ cs :=
    (readExponent_suffix _).trans ((readPlaces_suffix _).trans (readWhole_suffix cs))
  unfold readNumber
  dsimp only
  split
  · exact readsFrom_malformed
  · split
    · split
      · next hmany => exact Or.inr ⟨_, rfl, hasTooMany_of_readWhole hmany⟩
      · exact hleft
    · exact hleft

theorem readsFrom_readScalar (cs : List Char) : ReadsFrom cs (readScalar cs) := by
  unfold readScalar
  dsimp only
  split
  · next found hfound =>
      obtain ⟨⟨word, value⟩, -, hword⟩ := List.exists_of_findSome?_eq_some hfound
      obtain ⟨left, hleft, rfl⟩ := Option.map_eq_some_iff.mp hword
      unfold dropWord? at hleft
      split at hleft
      · rw [← Option.some.inj hleft]
        exact List.drop_suffix _ cs
      · cases hleft
  · split
    · exact (readsFrom_readNumber true _).of_suffix (List.suffix_cons _ _)
    · exact readsFrom_readNumber false cs

/-- What follows blanks and a character is an end of the text. -/
theorem suffix_of_skipBlanks {c : Char} (h : skipBlanks cs = c :: rest) : rest <:+ cs :=
  (List.suffix_cons c rest).trans (h ▸ skipBlanks_suffix cs)

/-- No reader of values, items or entries leaves anything but an end of the text; each step of the fuel
goes by the readers with one step less. -/
theorem readsFrom_readValue (fuel : Nat) : ∀ cs, ReadsFrom cs (readValue fuel cs) ∧
    ReadsFrom cs (readItems fuel cs) ∧ ReadsFrom cs (readEntries fuel cs) := by
  induction fuel with
  | zero => exact fun cs => ⟨readsFrom_malformed, readsFrom_malformed, readsFrom_malformed⟩
  | succ fuel ih =>
      have hvalue : ∀ cs, ReadsFrom cs (readValue fuel (skipBlanks cs)) := fun cs =>
        (ih (skipBlanks cs)).1.of_suffix (skipBlanks_suffix cs)
      refine fun cs => ⟨?_, ?_, ?_⟩
      · unfold readValue
        split
        · next after =>
            split
            · next chars left hstring => exact (readString_suffix hstring).trans (List.suffix_cons _ _)
            · exact readsFrom_malformed
        · next after =>
            split
            · next left hblanks => exact (suffix_of_skipBlanks hblanks).trans (List.suffix_cons _ _)
            · refine ((ih _).2.1.bind fun items left => ?_).of_suffix
                ((skipBlanks_suffix after).trans (List.suffix_cons _ _))
              exact List.suffix_refl left
        · next after =>
            split
            · next left hblanks => exact (suffix_of_skipBlanks hblanks).trans (List.suffix_cons _ _)
            · refine ((ih _).2.2.bind fun entries left => ?_).of_suffix
                ((skipBlanks_suffix after).trans (List.suffix_cons _ _))
              exact List.suffix_refl left
        · exact readsFrom_readScalar cs
      · unfold readItems
        refine (hvalue cs).bind fun item left => ?_
        dsimp only
        split
        · next after hblanks => exact suffix_of_skipBlanks hblanks
        · next after hblanks =>
            refine ((ih after).2.1.bind fun items left' => ?_).of_suffix (suffix_of_skipBlanks hblanks)
            exact List.suffix_refl left'
        · exact readsFrom_malformed
      · unfold readEntries
        split
        · next after hblanks =>
            refine ReadsFrom.of_suffix ?_ (suffix_of_skipBlanks hblanks)
            split
            · exact readsFrom_malformed
            · next key left hkey =>
                refine ReadsFrom.of_suffix ?_ (readString_suffix hkey)
                split
                · next colon hcolon =>
                    refine ((hvalue colon).bind fun value left' => ?_).of_suffix (suffix_of_skipBlanks hcolon)
                    dsimp only
                    split
                    · next last hlast => exact suffix_of_skipBlanks hlast
                    · next next' hnext =>
                        refine ((ih next').2.2.bind fun entries left'' => ?_).of_suffix
                          (suffix_of_skipBlanks hnext)
                        exact List.suffix_refl left''
                    · exact readsFrom_malformed
                · exact readsFrom_malformed
        · exact readsFrom_malformed

/-- A text that is not read breaks the grammar, or has a whole number of too many digits. -/
theorem error_of_parse {text : String} {e : ReadError} (h : parse text = .error e) :
    e = .malformed ∨ ∃ digits, e = .integerTooLong digits ∧ HasTooMany digits text.toList := by
  have hread : ReadsFrom text.toList
      (readValue (2 * text.toList.length + 2) (skipBlanks text.toList)) :=
    (readsFrom_readValue _ _).1.of_suffix (skipBlanks_suffix _)
  unfold parse at h
  dsimp only at h
  revert h hread
  generalize readValue (2 * text.toList.length + 2) (skipBlanks text.toList) = result
  intro h hread
  obtain e' | ⟨value, left⟩ := result
  · obtain rfl : e' = e := Except.error.inj h
    exact hread
  · change (if _ then _ else _) = Except.error e at h
    split at h
    · cases h
    · exact Or.inl (Except.error.inj h).symm

end Json

end QuestionBoard
