import QuestionBoard.Action
import QuestionBoard.Question.Basic
import QuestionBoard.Question.Selection

/-!
What every store of questions does. A store may keep the identifier that a question comes with or
give it one of its own, so `add` gives the question back as it is stored.
-/

namespace QuestionBoard

class QuestionRepository (σ : Type) where
  add : Question → Action σ Question
  update : Question → Action σ Question
  delete : QuestionId → Action σ Unit
  get : QuestionId → Action σ Question
  list : Selection → Action σ (List Question)

def Failure.noQuestion (id : QuestionId) : Failure := .notFound "Question" id.text

end QuestionBoard
