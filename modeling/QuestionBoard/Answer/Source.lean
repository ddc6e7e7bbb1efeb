import QuestionBoard.Action

/-!
Sources of answers: from the text of a question they make an answer to it, slowly, or fail.
-/

namespace QuestionBoard

class AnswerSource (γ : Type) where
  answer : Json → Action γ Text
  close : Action γ Unit := return ()

end QuestionBoard
