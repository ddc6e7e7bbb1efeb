import QuestionBoard.Answer.Service
import QuestionBoard.Board.Draft
import QuestionBoard.Board.Route
import QuestionBoard.Http.Body

/-!
What a request asks of the board, and doing it. A body is read before anything is done. Doing a
command gives the data of a successful response, or fails.
-/

namespace QuestionBoard

/-- What the board is asked to do. -/
inductive Command
  | describe
  | list (parameters : Json)
  | find (id : String)
  | add (draft : QuestionDraft)
  | replace (id : String) (draft : QuestionDraft)
  | remove (id : String)
  | answer (id : String)

namespace Command

/-- The command of a request to a route; another response if the method or the body does not fit. -/
def ofRequest (route : Route) (r : HttpRequest) : Except HttpResponse Command :=
  match route, r.method with
  | .root, "GET" => .ok .describe
  | .questions, "GET" =>
    .ok (.list (Json.ofEntries (r.parameters.map fun (name, value) => (name, .text value))))
  | .questions, "POST" => (r.readBody QuestionDraft.ofNew).map .add
  | .question id, "GET" => .ok (.find id)
  | .question id, "PUT" => (r.readBody QuestionDraft.ofReplacement).map (.replace id)
  | .question id, "DELETE" => .ok (.remove id)
  | .answer id, "GET" => .ok (.answer id)
  | _, _ => .error (.detail 405 "Method Not Allowed")

/-- The name under which commands are logged. -/
def logger : String := "qna.api.questions"

def version : String := "0.1.0"

variable {σ κ γ : Type} [QuestionRepository σ] [Cache κ] [AnswerSource γ]

/-- Logs what became of a question. -/
def report (id : QuestionId) (what : String) : Action (AnswerService σ κ γ) Unit :=
  Action.log .info logger ("Question " ++ id.text ++ " " ++ what)

def run (serviceName : Text) : Command → Action (AnswerService σ κ γ) Json
  | .describe =>
    return .object [("service", .text serviceName), ("version", .text version)]
  | .list parameters => do
    let selection ← Action.ofExcept (Selection.ofParameters parameters)
    let questions ← AnswerService.onQuestions (QuestionRepository.list selection)
    return .array (← Action.ofExcept (questions.mapM Question.response))
  | .find id => do
    let target ← Action.ofExcept (QuestionId.ofText id)
    let question ← AnswerService.onQuestions (QuestionRepository.get target)
    Action.ofExcept question.response
  | .add draft => do
    let id ← Action.ofExcept (QuestionId.of (draft.id.getD .null))
    let question ← AnswerService.onQuestions (QuestionRepository.add (draft.question id))
    report question.id "added"
    Action.ofExcept question.response
  | .replace id draft => do
    let target ← Action.ofExcept (QuestionId.ofText id)
    let question ← AnswerService.onQuestions (QuestionRepository.update (draft.question target))
    let _ ← AnswerService.invalidate question.id
    report question.id "updated"
    Action.ofExcept question.response
  | .remove id => do
    let target ← Action.ofExcept (QuestionId.ofText id)
    AnswerService.onQuestions (QuestionRepository.delete target)
    let _ ← AnswerService.invalidate target
    report target "deleted"
    return .object [("message", .text "Question deleted")]
  | .answer id => do
    let target ← Action.ofExcept (QuestionId.ofText id)
    let answer ← AnswerService.answerFor target
    return .object [("question_id", .text target.text), ("answer", .text answer)]

end Command

end QuestionBoard
