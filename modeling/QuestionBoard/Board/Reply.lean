import QuestionBoard.Board.Command

/-!
Replies to requests. What is absent, malformed or missing is the client's fault and is said in the
response; an internal failure is logged and leaves nothing of itself in the response. Other failures
are left to whoever runs the board.
-/

namespace QuestionBoard

namespace Board

/-- The name under which failed requests are logged. -/
def logger : String := "qna.api.errors"

variable {σ κ γ : Type}

/-- The response to a failed request, if the failure is one that has a response. -/
def failureResponse (r : HttpRequest) (f : Failure) : Action (AnswerService σ κ γ) HttpResponse := do
  match f with
  | .notFound _ _ => return .detail 404 "Not found"
  | .parse _ _ | .missingParameters _ _ => Action.ofExcept (HttpResponse.detail 400 f.message).sent
  | .internal _ _ =>
    Action.log .error logger (r.method ++ " " ++ r.shownPath ++ " failed: " ++ f.message)
    return .detail 500 "Internal server error"
  | _ => throw f

variable [QuestionRepository σ] [Cache κ] [AnswerSource γ]

def routeResponse (serviceName : Text) (route : Route) (r : HttpRequest) :
    Action (AnswerService σ κ γ) HttpResponse := do
  match Command.ofRequest route r with
  | .error response => Action.ofExcept response.sent
  | .ok command =>
    match ← (command.run serviceName : Action (AnswerService σ κ γ) Json).attempt with
    | .ok data => Action.ofExcept (HttpResponse.ok data).sent
    | .error f => failureResponse r f

def response (serviceName : Text) (r : HttpRequest) : Action (AnswerService σ κ γ) HttpResponse := do
  match Route.ofPath r.path.toList with
  | some route => routeResponse serviceName route r
  | none =>
    if Route.isRedirected r.path.toList then return ⟨307, .empty, none⟩
    else return .detail 404 "Not Found"

/-- The reply to a request, readable from other origins. -/
def reply (serviceName : Text) (r : HttpRequest) : Action (AnswerService σ κ γ) HttpResponse := do
  match HttpResponse.preflight? r with
  | some response => return response
  | none => return (← response serviceName r).forOrigin r

end Board

end QuestionBoard
