import QuestionBoard.Answer.Source
import QuestionBoard.Cache.Basic
import QuestionBoard.Question.Repository

/-!
Answers to stored questions. An answer is kept in the cache under the identifier of its question, so
that the source is asked once until the entry expires or is invalidated. A cache that fails is
logged and passed by: the answer is made anew, and only not kept.
-/

namespace QuestionBoard

/-- Where questions are read, where answers are kept, where they are made, and for how long one is
used again. -/
structure AnswerService (σ κ γ : Type) where
  questions : σ
  cache : κ
  source : γ
  lifetime : Option Duration := some .hour

namespace AnswerService

variable {σ κ γ α : Type}

/-- The name under which the service writes log lines. -/
def logger : String := "qna.domain.answers.service"

def cacheKey (id : QuestionId) : Text := "answer:" ++ id.text

def onQuestions (a : Action σ α) : Action (AnswerService σ κ γ) α :=
  a.onPart AnswerService.questions fun questions s => { s with questions }

def onCache (a : Action κ α) : Action (AnswerService σ κ γ) α :=
  a.onPart AnswerService.cache fun cache s => { s with cache }

def onSource (a : Action γ α) : Action (AnswerService σ κ γ) α :=
  a.onPart AnswerService.source fun source s => { s with source }

/-- The kept answer to a question, if the cache gives one. -/
def kept [Cache κ] (id : QuestionId) : Action (AnswerService σ κ γ) (Option Text) := do
  match ← (onCache (Cache.get (cacheKey id))).attempt with
  | .ok answer =>
    Action.log .debug logger ("Answer for question " ++ id.text ++ " served from cache")
    return some answer
  | .error (.notFound _ _) => return none
  | .error (.internal reason cause) =>
    Action.log .warning logger ("Answer cache read failed for question " ++ id.text ++ ": " ++
      (Failure.internal reason cause).message)
    return none
  | .error f => throw f

def keep [Cache κ] (id : QuestionId) (answer : Text) : Action (AnswerService σ κ γ) Unit := do
  match ← (onCache (Cache.set (cacheKey id) answer (← get).lifetime)).attempt with
  | .ok () => return ()
  | .error (.internal reason cause) =>
    Action.log .warning logger ("Answer cache write failed for question " ++ id.text ++ ": " ++
      (Failure.internal reason cause).message)
  | .error f => throw f

def answerFor [QuestionRepository σ] [Cache κ] [AnswerSource γ] (id : QuestionId) :
    Action (AnswerService σ κ γ) Text := do
  let question ← onQuestions (QuestionRepository.get id)
  if let some answer ← kept question.id then return answer
  let answer ← onSource (AnswerSource.answer question.content)
  keep question.id answer
  return answer

/-- Drops the kept answer to a question, and tells whether there was one to drop. -/
def invalidate [Cache κ] (id : QuestionId) : Action (AnswerService σ κ γ) Bool := do
  match ← (onCache (Cache.delete (cacheKey id))).attempt with
  | .ok () => return true
  | .error (.notFound _ _) => return false
  | .error (.internal reason cause) =>
    Action.log .error logger ("Could not invalidate cached answer for question " ++ id.text ++ ": " ++
      (Failure.internal reason cause).message)
    return false
  | .error f => throw f

end AnswerService

end QuestionBoard
