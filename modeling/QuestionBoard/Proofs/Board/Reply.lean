import QuestionBoard.Board.Reply
import QuestionBoard.Proofs.Board.Command
import QuestionBoard.Proofs.Json.Texts

/-!
Replies and the commands behind them. A request that asks for a command leaves the board as the
command does, and its response has status 200 just when the command succeeded with data that can go over
the wire.
-/

namespace QuestionBoard

open QuestionBoard.Action

/-- The command that a request asks for, if its path, its method and its body ask for one. -/
def HttpRequest.command? (r : HttpRequest) : Option Command :=
  (Route.ofPath r.path.toList).bind fun route => (Command.ofRequest route r).toOption

variable {r : HttpRequest} {command : Command}

namespace HttpRequest

/-- A command that comes with a body is none that comes without. -/
theorem exists_of_readBody {α : Type} {read : Except HttpResponse α} {command : α → Command}
    {other : Command} (h : (read.map command).toOption = some other) : ∃ a, command a = other := by
  cases read with
  | error response => cases h
  | ok a => exact ⟨a, Option.some.inj h⟩

/-- A request asks for an answer when it reads the path that ends so. -/
theorem command?_eq_answer_iff {id : String} :
    r.command? = some (.answer id) ↔
      r.method = "GET" ∧ Route.ofPath r.path.toList = some (.answer id) := by
  rw [command?, Option.bind_eq_some_iff]
  constructor
  · rintro ⟨route, hroute, hcommand⟩
    rw [Command.ofRequest.eq_def] at hcommand
    split at hcommand
    case h_3 | h_5 => cases (exists_of_readBody hcommand).choose_spec
    case h_7 hmethod =>
      obtain rfl := Command.answer.inj (Option.some.inj hcommand)
      exact ⟨hmethod, hroute⟩
    all_goals cases hcommand
  · rintro ⟨hmethod, hroute⟩
    refine ⟨_, hroute, ?_⟩
    simp only [Command.ofRequest, hmethod]
    rfl

/-- A request removes a question when it deletes the path of the question. -/
theorem command?_eq_remove_iff {id : String} :
    r.command? = some (.remove id) ↔
      r.method = "DELETE" ∧ Route.ofPath r.path.toList = some (.question id) := by
  rw [command?, Option.bind_eq_some_iff]
  constructor
  · rintro ⟨route, hroute, hcommand⟩
    rw [Command.ofRequest.eq_def] at hcommand
    split at hcommand
    case h_3 | h_5 => cases (exists_of_readBody hcommand).choose_spec
    case h_6 hmethod =>
      obtain rfl := Command.remove.inj (Option.some.inj hcommand)
      exact ⟨hmethod, hroute⟩
    all_goals cases hcommand
  · rintro ⟨hmethod, hroute⟩
    refine ⟨_, hroute, ?_⟩
    simp only [Command.ofRequest, hmethod]
    rfl

/-- A request that puts to the path of a question replaces it, if its body can be read. -/
theorem command?_of_put {id : String} (hmethod : r.method = "PUT")
    (hroute : Route.ofPath r.path.toList = some (.question id)) :
    r.command? = ((r.readBody QuestionDraft.ofReplacement).map (Command.replace id)).toOption := by
  rw [command?, hroute, Option.bind_some, Command.ofRequest.eq_def]
  simp only [hmethod]

/-- The response to a body that cannot be read does not say that all is well. -/
theorem status_ne_of_readBody {α : Type} {read : Field.Reader α} {response : HttpResponse}
    (h : r.readBody read = .error response) : response.status ≠ 200 := by
  have hrefused : ∀ rule found, (refusedBody rule found).status ≠ 200 := fun _ _ => by
    simp [refusedBody, HttpResponse.unprocessable]
  rw [readBody] at h
  split at h
  · exact Except.error.inj h ▸ hrefused _ _
  · split at h
    · exact Except.error.inj h ▸ hrefused _ _
    · split at h
      · exact Except.error.inj h ▸ hrefused _ _
      · rw [← Except.error.inj h]
        simp [HttpResponse.detail]
      · split at h
        · cases h
        · rw [← Except.error.inj h]
          simp [HttpResponse.unprocessable]
      · exact Except.error.inj h ▸ hrefused _ _

end HttpRequest

theorem HttpRequest.exists_route (h : r.command? = some command) :
    ∃ route, Route.ofPath r.path.toList = some route ∧ Command.ofRequest route r = .ok command := by
  obtain ⟨route, hroute, hcommand⟩ := Option.bind_eq_some_iff.mp h
  refine ⟨route, hroute, ?_⟩
  cases hresult : Command.ofRequest route r with
  | error response =>
      rw [hresult] at hcommand
      cases hcommand
  | ok command' =>
      rw [hresult] at hcommand
      rw [Option.some.inj hcommand]

theorem HttpRequest.method_ne_options (h : r.command? = some command) : r.method ≠ "OPTIONS" := by
  intro hmethod
  obtain ⟨route, -, hcommand⟩ := HttpRequest.exists_route h
  cases route <;> simp [Command.ofRequest, hmethod] at hcommand

theorem HttpResponse.preflight?_eq_none (hmethod : r.method ≠ "OPTIONS") :
    HttpResponse.preflight? r = none := by
  rw [HttpResponse.preflight?]
  split
  · rw [if_pos (by simpa using hmethod)]
  · rfl

@[simp] theorem HttpResponse.forOrigin_status (response : HttpResponse) :
    (response.forOrigin r).status = response.status := by
  rw [HttpResponse.forOrigin]
  split <;> rfl

@[simp] theorem HttpResponse.forOrigin_body (response : HttpResponse) :
    (response.forOrigin r).body = response.body := by
  rw [HttpResponse.forOrigin]
  split <;> rfl

/-- A response that is sent is sent as it is. -/
theorem HttpResponse.eq_of_sent {response response' : HttpResponse} (h : response.sent = .ok response') :
    response' = response := by
  rw [sent] at h
  cases hwire : response.body.wire with
  | error f => simp [hwire, Except.map] at h
  | ok s => exact (Except.ok.inj (hwire ▸ h)).symm

theorem Command.exists_wire_answerData_iff {target : QuestionId} {answer : Text} :
    (∃ s, (answerData target answer).wire = .ok s) ↔ target.text.Whole ∧ answer.Whole := by
  have htexts : (answerData target answer).AllTexts Text.Whole ↔ target.text.Whole ∧ answer.Whole := by
    simp [answerData, Json.AllTexts, Json.AllEntryTexts]
  rw [← htexts]
  have hnumbers : (answerData target answer).hasUnbounded = false := rfl
  rcases Json.wire_cases hnumbers with ⟨hwhole, hwire⟩ | ⟨hwhole, f, hwire, -⟩
  · exact iff_of_true hwire hwhole
  · refine iff_of_false ?_ hwhole
    rintro ⟨s, hs⟩
    cases hwire.symm.trans hs

def HttpResponse.answer? (response : HttpResponse) : Option Text :=
  match response.status, response.body with
  | 200, .data data => match data.get? "answer" with
    | some (.text answer) => some answer
    | _ => none
  | _, _ => none

theorem HttpResponse.status_of_answer? {response : HttpResponse} {answer : Text}
    (h : response.answer? = some answer) : response.status = 200 := by
  rw [answer?] at h
  split at h
  · assumption
  · cases h

theorem HttpResponse.answer?_of_body {response : HttpResponse} {target : QuestionId} {answer : Text}
    (hstatus : response.status = 200) (hbody : response.body = .data (Command.answerData target answer)) :
    response.answer? = some answer := by
  rw [answer?, hstatus, hbody]
  rfl

namespace Board

variable {σ κ γ : Type} (s : AnswerService σ κ γ) (j : Journal)

/-- The response to a failed request, if there is one, does not say that all is well. -/
theorem exists_outcome_failureResponse (r : HttpRequest) (f : Failure) : ∃ result j',
    (failureResponse r f).outcome s j = ⟨result, s, j'⟩ ∧
      ∀ response, result = .ok response → response.status ≠ 200 := by
  cases f with
  | notFound | internal =>
      refine ⟨_, _, rfl, ?_⟩
      rintro _ ⟨⟩
      simp [HttpResponse.detail]
  | parse | missingParameters =>
      refine ⟨_, _, rfl, fun response hsent => ?_⟩
      rw [HttpResponse.eq_of_sent hsent]
      simp [HttpResponse.detail]
  | _ =>
      refine ⟨_, _, rfl, ?_⟩
      rintro _ ⟨⟩

variable [QuestionRepository σ] [Cache κ] [AnswerSource γ]

/-- The reply to a request that asks for a command, by the outcome of the command. -/
theorem outcome_reply (serviceName : Text) (h : r.command? = some command)
    {o : Outcome (AnswerService σ κ γ) Json} (ho : (command.run serviceName).outcome s j = o) :
    (reply serviceName r).outcome s j = match o.result with
      | .ok data => ⟨data.wire.map fun _ => (HttpResponse.ok data).forOrigin r, o.state, o.journal⟩
      | .error f => ((failureResponse r f).outcome o.state o.journal).andThen fun response =>
          pure (response.forOrigin r) := by
  obtain ⟨route, hroute, hcommand⟩ := HttpRequest.exists_route h
  rw [reply, HttpResponse.preflight?_eq_none (HttpRequest.method_ne_options h), outcome_bind, response,
    hroute]
  simp only
  rw [routeResponse, hcommand]
  simp only
  rw [outcome_bind, outcome_attempt, ho, andThen_ok]
  obtain ⟨result, state, journal⟩ := o
  cases result with
  | ok data =>
      simp only [HttpResponse.sent]
      change Outcome.andThen ⟨data.wire.map _, _, _⟩ _ = _
      cases data.wire <;> rfl
  | error f => rfl

/-- What a reply comes to, by the outcome of the command that is asked for. -/
theorem exists_outcome_reply (serviceName : Text) (h : r.command? = some command)
    {o : Outcome (AnswerService σ κ γ) Json} (ho : (command.run serviceName).outcome s j = o) :
    ∃ result j', (reply serviceName r).outcome s j = ⟨result, o.state, j'⟩ ∧
      (∀ data, o.result = .ok data → result = data.wire.map fun _ => (HttpResponse.ok data).forOrigin r) ∧
      ∀ f response, o.result = .error f → result = .ok response → response.status ≠ 200 := by
  rw [outcome_reply s j serviceName h ho]
  obtain ⟨result, state, journal⟩ := o
  cases result with
  | ok data =>
      refine ⟨_, _, rfl, ?_, ?_⟩
      · rintro _ ⟨⟩
        rfl
      · rintro _ _ ⟨⟩
  | error f =>
      obtain ⟨result', j', hfailure, hstatus⟩ := exists_outcome_failureResponse state journal r f
      simp only
      rw [hfailure]
      cases result' with
      | error f' =>
          refine ⟨_, _, rfl, ?_, ?_⟩
          · rintro _ ⟨⟩
          · rintro _ _ _ ⟨⟩
      | ok response' =>
          refine ⟨_, _, rfl, ?_, ?_⟩
          · rintro _ ⟨⟩
          · rintro _ response _ ⟨⟩
            rw [HttpResponse.forOrigin_status]
            exact hstatus response' rfl

/-- A request that replaces a question and succeeds asks for a command. -/
theorem exists_replace_of_put (serviceName : Text) {id : String} (hmethod : r.method = "PUT")
    (hroute : Route.ofPath r.path.toList = some (.question id)) {response : HttpResponse}
    (hresponse : ((reply serviceName r).outcome s j).result = .ok response)
    (hstatus : response.status = 200) : ∃ draft, r.command? = some (.replace id draft) := by
  rw [HttpRequest.command?_of_put hmethod hroute]
  cases hbody : r.readBody QuestionDraft.ofReplacement with
  | ok draft => exact ⟨draft, rfl⟩
  | error refusal =>
      have hcommand : Command.ofRequest (.question id) r = .error refusal := by
        rw [Command.ofRequest.eq_def]
        simp only [hmethod, hbody]
        rfl
      have hoptions : r.method ≠ "OPTIONS" := by
        rw [hmethod]
        decide
      have hrefused := HttpRequest.status_ne_of_readBody hbody
      rw [reply, HttpResponse.preflight?_eq_none hoptions, outcome_bind, Board.response, hroute] at hresponse
      simp only at hresponse
      rw [routeResponse, hcommand] at hresponse
      simp only [outcome_ofExcept] at hresponse
      cases hsent : refusal.sent with
      | error f =>
          rw [hsent] at hresponse
          cases hresponse
      | ok response' =>
          rw [hsent] at hresponse
          rw [← Except.ok.inj hresponse, HttpResponse.forOrigin_status, HttpResponse.eq_of_sent hsent] at hstatus
          exact absurd hstatus hrefused

/-- A request that asks for no command changes nothing. -/
theorem outcome_reply_state_of_none (serviceName : Text) (h : r.command? = none) :
    ((reply serviceName r).outcome s j).state = s := by
  rw [reply]
  split
  · rfl
  · rw [outcome_bind, response]
    cases hroute : Route.ofPath r.path.toList with
    | none =>
        simp only
        split <;> rfl
    | some route =>
        rw [HttpRequest.command?, hroute, Option.bind_some] at h
        simp only
        rw [routeResponse]
        cases hcommand : Command.ofRequest route r with
        | error response =>
            simp only [outcome_ofExcept]
            cases response.sent <;> rfl
        | ok command =>
            rw [hcommand] at h
            cases h

end Board

end QuestionBoard
