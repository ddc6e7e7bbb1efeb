import QuestionBoard.Failure.Basic
import QuestionBoard.Proofs.Text.Points

/-!
Texts that are written in UTF-8. A text is written if it is all characters; a half that stands in it makes
a failure.
-/

namespace QuestionBoard

/-- Whether a failure says that halves cannot be written. -/
def Failure.SaysUnencodable (f : Failure) : Prop := ∃ position first count, f = .unencodable position first count

namespace Text

variable {t : Text} {s : String}

@[simp] theorem written_plain (s : String) : (plain s).written = .ok s := rfl

theorem written_eq_ok_iff : t.written = .ok s ↔ t = plain s := by
  cases t with
  | plain s' => simp
  | broken before h rest => simp [written]

theorem exists_written_of_not_whole (h : ¬t.Whole) : ∃ f, t.written = .error f ∧ f.SaysUnencodable := by
  cases t with
  | plain s => exact absurd (whole_plain s) h
  | broken before half rest => exact ⟨_, rfl, _, _, _, rfl⟩

end Text

end QuestionBoard
