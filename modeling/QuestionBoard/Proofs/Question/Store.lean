import QuestionBoard.Proofs.Action
import QuestionBoard.Proofs.OrderedMap
import QuestionBoard.Question.Store

/-!
What the operations of the store in memory come to. Only replacing a stored question writes to the
journal, and a failed operation leaves the store as it was.
-/

namespace QuestionBoard

namespace QuestionStore

open QuestionBoard.Action

variable (s : QuestionStore) (j : Journal) (q : Question) (id : QuestionId)

def addJournal : Journal :=
  if s.questions.contains q.id then j.write ⟨.debug, logger, "Overwriting question " ++ q.id.text⟩ else j

theorem outcome_add : outcome (QuestionRepository.add q) s j = ⟨.ok q, s.put q, addJournal s j q⟩ := by
  change (add _).outcome _ _ = _
  rw [add, outcome_bind, outcome_get, andThen_ok, addJournal]
  by_cases h : s.questions.contains q.id = true
  · rw [if_pos h, if_pos h]
    rfl
  · rw [if_neg h, if_neg h]
    rfl

theorem outcome_update : outcome (QuestionRepository.update q) s j =
    if s.questions.contains q.id then ⟨.ok q, s.put q, j⟩ else ⟨.error (.noQuestion q.id), s, j⟩ := by
  change (update _).outcome _ _ = _
  rw [update, outcome_bind, outcome_get, andThen_ok]
  by_cases h : s.questions.contains q.id = true
  · rw [if_pos h, if_pos h]
    rfl
  · rw [if_neg h, if_neg h]
    rfl

theorem outcome_delete : outcome (QuestionRepository.delete id) s j =
    if s.questions.contains id then ⟨.ok (), ⟨s.questions.erase id⟩, j⟩
    else ⟨.error (.noQuestion id), s, j⟩ := by
  change (delete _).outcome _ _ = _
  rw [delete, outcome_bind, outcome_get, andThen_ok]
  by_cases h : s.questions.contains id = true
  · rw [if_pos h, if_pos h]
    rfl
  · rw [if_neg h, if_neg h]
    rfl

theorem outcome_find : outcome (QuestionRepository.get id) s j =
    ⟨(s.questions.get? id).elim (.error (.noQuestion id)) .ok, s, j⟩ := by
  change (find _).outcome _ _ = _
  rw [find, outcome_bind, outcome_get, andThen_ok]
  cases s.questions.get? id <;> rfl

theorem outcome_list (selection : Selection) : outcome (QuestionRepository.list selection) s j =
    ⟨.ok (if selection.window.isEmpty then [] else selection.window.of s.questions.values), s, j⟩ := rfl

end QuestionStore

end QuestionBoard
