import QuestionBoard.Text.Basic

/-!
Texts as lists of characters and halves. A text is determined by its points, and any points are those of a
text.
-/

namespace QuestionBoard

namespace Text

/-- Whether a text is all characters. -/
def Whole (t : Text) : Prop := ∃ s, t = plain s

@[simp] theorem whole_plain (s : String) : (plain s).Whole := ⟨s, rfl⟩

@[simp] theorem not_whole_broken (before : String) (h : Half) (rest : Text) : ¬(broken before h rest).Whole :=
  fun ⟨_, hs⟩ => by cases hs

@[simp] theorem plain_append_plain (s t : String) : plain s ++ plain t = plain (s ++ t) := rfl

theorem plain_append_broken (s before : String) (h : Half) (rest : Text) :
    plain s ++ broken before h rest = broken (s ++ before) h rest := rfl

theorem broken_append (before : String) (h : Half) (rest t : Text) :
    broken before h rest ++ t = broken before h (rest ++ t) := rfl

/-! ### Points -/

@[simp] theorem points_plain (s : String) : (plain s).points = s.toList.map .char := rfl

@[simp] theorem points_broken (before : String) (h : Half) (rest : Text) :
    (broken before h rest).points = before.toList.map .char ++ .half h :: rest.points := rfl

@[simp] theorem points_append (s t : Text) : (s ++ t).points = s.points ++ t.points := by
  induction s with
  | plain s =>
      cases t with
      | plain t => simp
      | broken before h rest => simp [plain_append_broken]
  | broken before h rest ih => rw [broken_append, points_broken, ih, points_broken, List.append_assoc, List.cons_append]

theorem gathered_append (chars more : List Char) (ps : List CodePoint) :
    gathered chars (more.map .char ++ ps) = gathered (more.reverse ++ chars) ps := by
  induction more generalizing chars with
  | nil => rfl
  | cons c more ih =>
      rw [List.map_cons, List.cons_append, gathered, ih, List.reverse_cons, List.append_assoc, List.singleton_append]

theorem points_gathered (chars : List Char) (ps : List CodePoint) :
    (gathered chars ps).points = chars.reverse.map .char ++ ps := by
  induction ps generalizing chars with
  | nil => simp [gathered]
  | cons p ps ih =>
      cases p with
      | char c => rw [gathered, ih]; simp
      | half h => rw [gathered, points_broken, ih]; simp

/-- Any points are those of a text. -/
@[simp] theorem points_ofPoints (ps : List CodePoint) : (ofPoints ps).points = ps := points_gathered [] ps

/-- A text is the one of its points. -/
@[simp] theorem ofPoints_points (t : Text) : ofPoints t.points = t := by
  induction t with
  | plain s =>
      have hgathered := gathered_append [] s.toList []
      rw [List.append_nil, List.append_nil] at hgathered
      rw [points_plain, ofPoints, hgathered, gathered, List.reverse_reverse, String.ofList_toList]
  | broken before h rest ih =>
      rw [points_broken, ofPoints, gathered_append, List.append_nil, gathered, List.reverse_reverse,
        String.ofList_toList]
      exact congrArg (broken before h) ih

theorem points_injective : Function.Injective points := fun s t h => by
  rw [← ofPoints_points s, h, ofPoints_points]

@[simp] theorem ofPoints_map_char (cs : List Char) : ofPoints (cs.map .char) = plain (String.ofList cs) := by
  have hpoints : (plain (String.ofList cs)).points = cs.map .char := by
    rw [points_plain, String.toList_ofList]
  rw [← hpoints, ofPoints_points]

theorem ofPoints_eq_empty_iff {ps : List CodePoint} : ofPoints ps = plain "" ↔ ps = [] := by
  rw [← points_injective.eq_iff, points_ofPoints]
  rfl

/-! ### Texts side by side -/

@[simp] theorem append_right_inj (r : Text) {s t : Text} : r ++ s = r ++ t ↔ s = t := by
  constructor
  · intro h
    have hpoints := congrArg points h
    rw [points_append, points_append] at hpoints
    exact points_injective (List.append_cancel_left hpoints)
  · exact fun h => congrArg (r ++ ·) h

theorem append_assoc (r s t : Text) : r ++ s ++ t = r ++ (s ++ t) := by
  apply points_injective
  simp only [points_append, List.append_assoc]

@[simp] theorem whole_append {s t : Text} : (s ++ t).Whole ↔ s.Whole ∧ t.Whole := by
  cases s with
  | plain s =>
      cases t with
      | plain t => simp
      | broken before h rest => simp [plain_append_broken]
  | broken before h rest => simp [broken_append]

theorem points_joined (separator : Text) (ts : List Text) :
    (joined separator ts).points = separator.points.intercalate (ts.map points) := by
  induction ts with
  | nil => rfl
  | cons t rest ih =>
      cases rest with
      | nil => simp [joined]
      | cons t' rest =>
          change (t ++ separator ++ joined separator (t' :: rest)).points = _
          rw [points_append, points_append, ih]
          simp [List.intercalate]

/-! ### Texts that are all characters -/

@[simp] theorem string?_plain (s : String) : (plain s).string? = some s := rfl

@[simp] theorem chars_plain (s : String) : (plain s).chars = s.toList := rfl

/-- A text with the characters of a string is the string, but for the empty one. -/
theorem plain_eq_of_chars {s : String} {t : Text} (h : s.toList = t.chars) (hne : s ≠ "") : plain s = t := by
  cases t with
  | plain s' => exact congrArg plain (String.toList_injective h)
  | broken before half rest => exact absurd (String.toList_eq_nil_iff.mp h) hne

end Text

end QuestionBoard
