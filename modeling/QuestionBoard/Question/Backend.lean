import QuestionBoard.Question.Database
import QuestionBoard.Question.Store

/-!
The store that a board works on: in memory or in a database.
-/

namespace QuestionBoard

/-- A store of either kind. -/
inductive QuestionBackend
  | memory (store : QuestionStore)
  | relational (database : QuestionDatabase)

namespace QuestionBackend

/-- Runs the step that fits the kind of the store. -/
def step {α : Type} (onMemory : Action QuestionStore α) (onDatabase : Action QuestionDatabase α) :
    Action QuestionBackend α :=
  Action.ofOutcome fun backend journal =>
    match backend with
    | .memory store =>
      let o := onMemory.outcome store journal
      ⟨o.result, .memory o.state, o.journal⟩
    | .relational database =>
      let o := onDatabase.outcome database journal
      ⟨o.result, .relational o.state, o.journal⟩

instance : QuestionRepository QuestionBackend where
  add q := step (QuestionRepository.add q) (QuestionRepository.add q)
  update q := step (QuestionRepository.update q) (QuestionRepository.update q)
  delete id := step (QuestionRepository.delete id) (QuestionRepository.delete id)
  get id := step (QuestionRepository.get id) (QuestionRepository.get id)
  list selection := step (QuestionRepository.list selection) (QuestionRepository.list selection)

end QuestionBackend

end QuestionBoard
