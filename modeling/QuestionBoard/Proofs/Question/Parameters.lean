import QuestionBoard.Proofs.Question.Spelling
import QuestionBoard.Proofs.Text.Pieces

/-!
Selections as parameters ask for them. A bound is read exactly if it is digits, perhaps after a plus sign,
and then as the number that they spell; if a bound is nothing of the kind the first such bound is
reported, whatever order is wished for. The names in the wish for an order are its pieces between commas.
-/

namespace QuestionBoard

/-- Whether a text spells a number as a bound is spelled: digits, perhaps after a plus sign. -/
inductive SpellsUnsigned : List Char → Nat → Prop
  | plain {cs : List Char} (h : Digits cs) : SpellsUnsigned cs (Nat.ofDigitChars 10 cs 0)
  | plus {cs : List Char} (h : Digits cs) : SpellsUnsigned ('+' :: cs) (Nat.ofDigitChars 10 cs 0)

namespace Window

variable {cs : List Char} {name : String} {s : Text} {usual n : Nat} {parameters : Json}

/-! ### Bounds -/

theorem unsigned_of_digits (h : Digits cs) : unsigned cs = cs := by
  cases cs with
  | nil => rfl
  | cons c cs =>
      rw [unsigned.eq_def]
      split
      · next hplus => exact absurd (List.cons.inj hplus).1 h.ne_sign.2
      · rfl

theorem spellsUnsigned_iff : SpellsUnsigned cs n ↔
    Digits (unsigned cs) ∧ n = Nat.ofDigitChars 10 (unsigned cs) 0 := by
  constructor
  · intro h
    cases h with
    | plain h =>
        rw [unsigned_of_digits h]
        exact ⟨h, rfl⟩
    | plus h => exact ⟨h, rfl⟩
  · rintro ⟨h, rfl⟩
    revert h
    rw [unsigned.eq_def]
    split
    · exact .plus
    · exact .plain

theorem length_unsigned_le (h : Digits (unsigned cs)) :
    (unsigned cs).length ≤ cs.countP Char.isDigit := by
  have hall : (unsigned cs).countP Char.isDigit = (unsigned cs).length :=
    List.countP_eq_length.mpr h.2
  rw [← hall]
  apply List.Sublist.countP_le
  rw [unsigned.eq_def]
  split
  · exact List.sublist_cons_self _ _
  · exact List.Sublist.refl _

/-- The failure for a bound that spells no number. -/
def malformed (name : String) (s : Text) : Failure :=
  .parse (name ++ " must be an unsigned integer, got " ++ quoted s) (.text s)

theorem readBound_of_spells (hcount : s.chars.countP Char.isDigit ≤ maxIntegerDigits)
    (h : SpellsUnsigned s.chars n) : readBound name (.text s) = .ok n := by
  obtain ⟨hdigits, rfl⟩ := spellsUnsigned_iff.mp h
  have hlength := Nat.le_trans (length_unsigned_le hdigits) hcount
  rw [readBound_text, readDigits?_of_digits hdigits hlength]

theorem readBound_of_not_spells (h : ∀ n, ¬SpellsUnsigned s.chars n) :
    readBound name (.text s) = .error (malformed name s) := by
  have hdigits : ¬Digits (unsigned s.chars) := fun hdigits =>
    h _ (spellsUnsigned_iff.mpr ⟨hdigits, rfl⟩)
  rw [readBound_text, readDigits?_of_not_digits hdigits]
  rfl

/-- Whether a bound is `n`: what is spelled where it is given, and the usual one where it is not. -/
def BoundIs (name : String) (usual : Nat) (parameters : Json) (n : Nat) : Prop :=
  match parameters.get? name with
  | none => n = usual
  | some raw => ∃ s, raw = .text s ∧ SpellsUnsigned s.chars n

/-- Whether a bound is given by a text that spells no number. -/
def BoundMalformed (name : String) (parameters : Json) (s : Text) : Prop :=
  parameters.get? name = some (.text s) ∧ ∀ n, ¬SpellsUnsigned s.chars n

theorem boundIs_of_absent (h : parameters.get? name = none) : BoundIs name usual parameters usual := by
  rw [BoundIs, h]

theorem boundIs_of_text (h : parameters.get? name = some (.text s)) (hn : SpellsUnsigned s.chars n) :
    BoundIs name usual parameters n := by
  rw [BoundIs, h]
  exact ⟨s, rfl, hn⟩

theorem BoundIs.not_malformed (h : BoundIs name usual parameters n) (s : Text) :
    ¬BoundMalformed name parameters s := by
  rintro ⟨hraw, hnone⟩
  rw [BoundIs, hraw] at h
  obtain ⟨s', heq, hspells⟩ := h
  cases heq
  exact hnone n hspells

theorem BoundMalformed.unique {s' : Text} (h : BoundMalformed name parameters s)
    (h' : BoundMalformed name parameters s') : s' = s := by
  have hsame := h'.1.symm.trans h.1
  cases hsame
  rfl

/-- Parameters say what a bound is. -/
theorem BoundIs.unique {m : Nat} (h : BoundIs name usual parameters n)
    (h' : BoundIs name usual parameters m) : n = m := by
  unfold BoundIs at h h'
  cases hraw : parameters.get? name with
  | none =>
      rw [hraw] at h h'
      exact h.trans h'.symm
  | some raw =>
      rw [hraw] at h h'
      obtain ⟨s, heq, hspells⟩ := h
      obtain ⟨s', heq', hspells'⟩ := h'
      cases heq.symm.trans heq'
      exact (spellsUnsigned_iff.mp hspells).2.trans (spellsUnsigned_iff.mp hspells').2.symm

/-- A bound that is given and is no malformed text spells a number. -/
theorem BoundIs.spells (h : BoundIs name usual parameters n)
    (hraw : parameters.get? name = some (.text s)) : ∃ n, SpellsUnsigned s.chars n := by
  by_contra hnone
  exact h.not_malformed s ⟨hraw, fun n hn => hnone ⟨n, hn⟩⟩

end Window

namespace Selection

open Window

variable {parameters : Json} {name : String}

theorem Texts.present_eq (h : Texts parameters) (name : String) :
    Window.present name parameters = parameters.get? name := by
  unfold Window.present
  split
  · next hnull =>
      obtain ⟨s, hs⟩ := h name .null hnull
      cases hs
  · rfl

/-- Whether the bounds are given with no more digits than are read. -/
def FewDigits (parameters : Json) : Prop := ∀ name ∈ ["start", "end"], ∀ s,
  parameters.get? name = some (.text s) → s.chars.countP Char.isDigit ≤ 4300

/-- A bound is read as what it is, or reported. -/
theorem bound_cases (htexts : Texts parameters) (hfew : FewDigits parameters)
    (hname : name ∈ ["start", "end"]) (usual : Nat) :
    (∃ n, bound name usual parameters = .ok n ∧ BoundIs name usual parameters n) ∨
      ∃ s, bound name usual parameters = .error (malformed name s) ∧
        BoundMalformed name parameters s := by
  rw [bound, htexts.present_eq]
  cases hraw : parameters.get? name with
  | none => exact Or.inl ⟨usual, rfl, boundIs_of_absent hraw⟩
  | some raw =>
      obtain ⟨s, rfl⟩ := htexts name raw hraw
      by_cases hspells : ∃ n, SpellsUnsigned s.chars n
      · obtain ⟨n, hn⟩ := hspells
        exact Or.inl ⟨n, readBound_of_spells (hfew name hname s hraw) hn, boundIs_of_text hraw hn⟩
      · have hnone : ∀ n, ¬SpellsUnsigned s.chars n := fun n hn => hspells ⟨n, hn⟩
        exact Or.inr ⟨s, readBound_of_not_spells hnone, hraw, hnone⟩

/-! ### The wish for an order -/

theorem sortOfData_text {s : Text} (h : s ≠ "") : sortOfData (.text s) =
    .ok (.array (((s.splitOn ',').filter fun name : Text => name ≠ "").map .text)) := by
  have htruthy : (Json.text s).isTruthy = true := by simpa [Json.isTruthy] using h
  rw [sortOfData, htruthy]
  rfl

/-- The names of a wish are its pieces. -/
theorem arePieces_names (s : Text) : ArePieces (.char ',') s.points
    (((s.splitOn ',').filter fun name : Text => name ≠ "").map Text.points) := by
  have hempty : ((fun name : Text => decide (name ≠ "")) ∘ Text.ofPoints) = fun ps => decide (ps ≠ []) := by
    funext ps
    simp [Text.ofPoints_eq_empty_iff]
  rw [Text.splitOn, List.filter_map, hempty, List.map_map, show Text.points ∘ Text.ofPoints = id from
    funext Text.points_ofPoints, List.map_id]
  exact arePieces_splitOn _ s.points

/-- Names that are joined by commas are read back. -/
theorem names_joined {names : List Text} (hne : names ≠ [])
    (h : ∀ name ∈ names, name ≠ "" ∧ .char ',' ∉ name.points) :
    ((Text.joined "," names).splitOn ',').filter (fun name : Text => name ≠ "") = names := by
  have hsplit : (Text.joined "," names).points.splitOn (.char ',') = names.map Text.points := by
    rw [Text.points_joined]
    refine List.splitOn_intercalate (CodePoint.char ',') ?_ (by simpa using hne)
    rintro _ hmem
    obtain ⟨name, hname, rfl⟩ := List.mem_map.mp hmem
    exact (h name hname).2
  rw [Text.splitOn, hsplit, List.map_map, show Text.ofPoints ∘ Text.points = id from
    funext Text.ofPoints_points, List.map_id]
  exact List.filter_eq_self.mpr fun name hname => by simpa using (h name hname).1

theorem joined_ne_empty {names : List Text} (hne : names ≠ [])
    (h : ∀ name ∈ names, name ≠ "" ∧ .char ',' ∉ name.points) : Text.joined "," names ≠ "" := by
  intro hempty
  have hnames := names_joined hne h
  rw [hempty] at hnames
  exact hne hnames.symm

structure Shows (parameters : Json) (selection : Selection) : Prop where
  start : BoundIs "start" 0 parameters selection.window.start
  stop : BoundIs "end" 10 parameters selection.window.stop
  unordered : (∀ s, parameters.get? "sort" = some (.text s) → s = "") → selection.sort = .null
  ordered : ∀ s, parameters.get? "sort" = some (.text s) → s ≠ "" →
    ∃ names : List Text, selection.sort = .array (names.map .text) ∧
      ArePieces (.char ',') s.points (names.map Text.points)
  joined : ∀ names : List Text, names ≠ [] → (∀ name ∈ names, name ≠ "" ∧ .char ',' ∉ name.points) →
    parameters.get? "sort" = some (.text (.joined "," names)) →
      selection.sort = .array (names.map .text)

theorem shows_of_bounds {window : Window} {sort : Json} (htexts : Texts parameters)
    (hstart : BoundIs "start" 0 parameters window.start) (hstop : BoundIs "end" 10 parameters window.stop)
    (hsort : sortOfData ((parameters.get? "sort").getD .null) = .ok sort) :
    Shows parameters ⟨window, sort⟩ := by
  refine ⟨hstart, hstop, fun hempty => ?_, fun s hraw hs => ?_, fun names hne hnames hraw => ?_⟩
  · cases hraw : parameters.get? "sort" with
    | none =>
        rw [hraw] at hsort
        exact (Except.ok.inj hsort).symm
    | some raw =>
        obtain ⟨s, rfl⟩ := htexts "sort" raw hraw
        obtain rfl := hempty s hraw
        rw [hraw] at hsort
        exact (Except.ok.inj hsort).symm
  · rw [hraw, Option.getD_some, sortOfData_text hs] at hsort
    exact ⟨_, (Except.ok.inj hsort).symm, arePieces_names s⟩
  · rw [hraw, Option.getD_some, sortOfData_text (joined_ne_empty hne hnames),
      names_joined hne hnames] at hsort
    exact (Except.ok.inj hsort).symm

/-- A selection is read as the parameters ask for it, or its first malformed bound is reported. -/
theorem ofParameters_cases (htexts : Texts parameters) (hfew : FewDigits parameters) :
    (∃ selection, ofParameters parameters = .ok selection ∧ selection.Shows parameters) ∨
    (∃ s, ofParameters parameters = .error (malformed "start" s) ∧ BoundMalformed "start" parameters s) ∨
    (∃ n, BoundIs "start" 0 parameters n) ∧
      ∃ s, ofParameters parameters = .error (malformed "end" s) ∧ BoundMalformed "end" parameters s := by
  have heq : ofParameters parameters = (do
      let start ← bound "start" 0 parameters
      let stop ← bound "end" 10 parameters
      let sort ← sortOfData ((parameters.get? "sort").getD .null)
      return ⟨⟨start, stop⟩, sort⟩) := by
    rw [ofParameters, Window.ofParameters_eq, bind_assoc]
    refine bind_congr fun start => ?_
    rw [bind_assoc]
    rfl
  obtain ⟨sort, hsort⟩ := htexts.exists_sortOfData
  rw [heq, hsort]
  rcases bound_cases htexts hfew (by simp : "start" ∈ _) 0 with
    ⟨start, hread, hstart⟩ | ⟨s, hread, hmalformed⟩
  · rcases bound_cases htexts hfew (by simp : "end" ∈ _) 10 with
      ⟨stop, hread', hstop⟩ | ⟨s, hread', hmalformed⟩
    · left
      rw [hread, hread']
      exact ⟨_, rfl, shows_of_bounds htexts hstart hstop hsort⟩
    · right; right
      rw [hread, hread']
      exact ⟨⟨start, hstart⟩, s, rfl, hmalformed⟩
  · right; left
    rw [hread]
    exact ⟨s, rfl, hmalformed⟩

/-- Reading a selection from parameters is exact. It succeeds exactly if each bound that is given is
digits, perhaps after a plus sign; the window then has the numbers that are spelled, and 0 and 10 where
none is given, and the order is that of the pieces between the commas of the wish. Otherwise the first
bound that spells no number is reported with its text, the start before the end. -/
theorem ofParameters_exact (parameters : Json) (htexts : Texts parameters) (hfew : FewDigits parameters) :
    ((∃ selection, ofParameters parameters = .ok selection) ↔
      ∀ name ∈ ["start", "end"], ∀ s, parameters.get? name = some (.text s) →
        ∃ n, SpellsUnsigned s.chars n) ∧
    (∀ selection, ofParameters parameters = .ok selection → selection.Shows parameters) ∧
    (∀ s, BoundMalformed "start" parameters s →
      ofParameters parameters = .error (malformed "start" s)) ∧
    ∀ s, (∀ s', ¬BoundMalformed "start" parameters s') → BoundMalformed "end" parameters s →
      ofParameters parameters = .error (malformed "end" s) := by
  have hfails : ∀ {name s f}, ofParameters parameters = .error f → BoundMalformed name parameters s →
      name ∈ ["start", "end"] →
        ((∃ selection, ofParameters parameters = .ok selection) ↔
          ∀ name ∈ ["start", "end"], ∀ s, parameters.get? name = some (.text s) →
            ∃ n, SpellsUnsigned s.chars n) ∧
        ∀ selection, ofParameters parameters = .ok selection → selection.Shows parameters := by
    rintro name s f hread ⟨hraw, hnone⟩ hname
    refine ⟨⟨fun ⟨selection, hok⟩ => ?_, fun hall => ?_⟩, fun selection hok => ?_⟩
    · cases hread.symm.trans hok
    · obtain ⟨n, hn⟩ := hall name hname s hraw
      exact absurd hn (hnone n)
    · cases hread.symm.trans hok
  rcases ofParameters_cases htexts hfew with
    ⟨selection, hread, hshows⟩ | ⟨s, hread, hmalformed⟩ | ⟨⟨n, hstart⟩, s, hread, hmalformed⟩
  · refine ⟨⟨fun _ name hname s hraw => ?_, fun _ => ⟨selection, hread⟩⟩, fun other hok => ?_,
      fun s hmalformed => ?_, fun s _ hmalformed => ?_⟩
    · simp only [List.mem_cons, List.not_mem_nil, or_false] at hname
      rcases hname with rfl | rfl
      · exact hshows.start.spells hraw
      · exact hshows.stop.spells hraw
    · cases hread.symm.trans hok
      exact hshows
    · exact absurd hmalformed (hshows.start.not_malformed s)
    · exact absurd hmalformed (hshows.stop.not_malformed s)
  · obtain ⟨hiff, hshows⟩ := hfails hread hmalformed (by simp)
    refine ⟨hiff, hshows, fun s' hmalformed' => ?_, fun s' hnone _ => absurd hmalformed (hnone s)⟩
    rw [hread, hmalformed.unique hmalformed']
  · obtain ⟨hiff, hshows⟩ := hfails hread hmalformed (by simp)
    refine ⟨hiff, hshows, fun s' hmalformed' => absurd hmalformed' (hstart.not_malformed s'),
      fun s' _ hmalformed' => ?_⟩
    rw [hread, hmalformed.unique hmalformed']

/-- A wish for two names, from the seventh question on. -/
def seventhOn : Json :=
  .ofEntries [("start", .text "+007"), ("sort", .text (.joined "," ["title", "-id"]))]

/-- Two bounds that spell no number. -/
def malformedBoth : Json := .ofEntries [("start", .text "-1"), ("end", .text "ten"), ("sort", .text ",")]

/-- The first is read, and of the second the start is reported. -/
theorem ofParameters_exact_seventhOn :
    (Texts seventhOn ∧ FewDigits seventhOn ∧ ∃ selection, ofParameters seventhOn = .ok selection ∧
      selection.window = ⟨7, 10⟩ ∧ selection.sort = .array [.text "title", .text "-id"]) ∧
    Texts malformedBoth ∧ FewDigits malformedBoth ∧
      ofParameters malformedBoth = .error (malformed "start" "-1") := by
  have htexts : Texts seventhOn := texts_ofEntries (by simp)
  have hstart : seventhOn.get? "start" = some (.text "+007") := rfl
  have hstop : seventhOn.get? "end" = none := rfl
  have hdigits : Digits ['0', '0', '7'] := ⟨by simp, by simp⟩
  have hspells : SpellsUnsigned "+007".toList 7 := .plus hdigits
  have hfew : FewDigits seventhOn := by
    simp only [FewDigits, List.mem_cons, List.not_mem_nil, or_false, forall_eq_or_imp, forall_eq]
    rw [hstart, hstop]
    refine ⟨fun s hs => ?_, fun s hs => by cases hs⟩
    cases hs
    decide
  have htexts' : Texts malformedBoth := texts_ofEntries (by simp)
  have hfew' : FewDigits malformedBoth := by
    simp only [FewDigits, List.mem_cons, List.not_mem_nil, or_false, forall_eq_or_imp, forall_eq]
    have hstart' : malformedBoth.get? "start" = some (.text "-1") := rfl
    have hstop' : malformedBoth.get? "end" = some (.text "ten") := rfl
    rw [hstart', hstop']
    refine ⟨fun s hs => ?_, fun s hs => ?_⟩
    · cases hs
      decide
    · cases hs
      decide
  refine ⟨⟨htexts, hfew, ?_⟩, htexts', hfew', ?_⟩
  · obtain ⟨hiff, hshows, -⟩ := ofParameters_exact seventhOn htexts hfew
    obtain ⟨selection, hread⟩ := hiff.mpr fun name hname s hraw => by
      simp only [List.mem_cons, List.not_mem_nil, or_false] at hname
      rcases hname with rfl | rfl
      · cases hstart.symm.trans hraw
        exact ⟨7, hspells⟩
      · cases hstop.symm.trans hraw
    have hread' := hshows selection hread
    have hwindow : selection.window = ⟨7, 10⟩ := by
      rw [← hread'.start.unique (boundIs_of_text hstart hspells),
        ← hread'.stop.unique (boundIs_of_absent hstop)]
    exact ⟨selection, hread, hwindow, hread'.joined ["title", "-id"] (by simp) (by decide) rfl⟩
  · obtain ⟨-, -, hmalformed, -⟩ := ofParameters_exact malformedBoth htexts' hfew'
    refine hmalformed "-1" ⟨rfl, fun n hn => ?_⟩
    have hdigits := (spellsUnsigned_iff.mp hn).1.2 '-' (by decide)
    exact absurd hdigits (by decide)

end Selection

end QuestionBoard
