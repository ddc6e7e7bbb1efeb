import QuestionBoard.Answer.Scripted
import QuestionBoard.Proofs.Answer.Documented

/-!
What a call on the client of an answer server comes to, whatever the server and the connection do. A
session may raise a failure at three places: when a question is posted, when the text of an error is
read, and when the data of a reply are read. `AnswerClient.Course` has one case for each way in which a
call can end, with the error line about it; only a failure that the client does not know has none.
-/

namespace QuestionBoard

open QuestionBoard.Action

/-! ### Timed steps -/

namespace Action

variable {σ α : Type}

def timedLine (logger name : String) (elapsed : Binary64) : Except Failure α → Log.Line
  | .ok _ => ⟨.debug, logger, name ++ " executed in " ++ secondsText elapsed⟩
  | .error f => ⟨.error, logger, name ++ " failed after " ++ secondsText elapsed ++ ": " ++ f.message⟩

/-- A timed step passes its result on, by a clock whose reading never fails. -/
theorem outcome_timed {clock : Action σ Binary64} {read : σ → Binary64 × σ}
    (hclock : ∀ s j, clock.outcome s j = ⟨.ok (read s).1, (read s).2, j⟩) (logger name : String)
    (step : Action σ α) (s : σ) (j : Journal) : (timed clock logger name step).outcome s j =
      let o := step.outcome (read s).2 j
      ⟨o.result, (read o.state).2,
        o.journal.write (timedLine logger name ((read o.state).1 - (read s).1) o.result)⟩ := by
  rw [timed, outcome_bind, hclock, andThen_ok, outcome_bind, outcome_attempt, andThen_ok, outcome_bind,
    hclock, andThen_ok]
  rcases step.outcome (read s).2 j with ⟨_ | _, _, _⟩ <;> rfl

end Action

/-! ### Replies -/

/-- What a session raises in an exchange: when it posts, when the text of a reply of another status than
200 is read, or when the data of one of status 200 are. -/
inductive HttpReply.Raises : Except Failure HttpReply → Failure → Prop
  | posting {f : Failure} : Raises (.error f) f
  | readingText {reply : HttpReply} {f : Failure} (hstatus : reply.status ≠ 200)
      (htext : reply.text = .error f) : Raises (.ok reply) f
  | readingData {reply : HttpReply} {f : Failure} (hstatus : reply.status = 200)
      (hdata : reply.data = .error f) : Raises (.ok reply) f

/-- The answer in a reply: the text under `answer` in the object that a reply of status 200 has. -/
inductive HttpReply.Answers : Except Failure HttpReply → Text → Prop
  | intro {reply : HttpReply} {entries : List (Text × Json)} {answer : Text}
      (hstatus : reply.status = 200) (hdata : reply.data = .ok (.object entries))
      (hanswer : entries.lookup ("answer" : Text) = some (.text answer)) : Answers (.ok reply) answer

namespace HttpReply

variable {reply : Except Failure HttpReply} {f f' : Failure} {answer answer' : Text}

theorem Raises.not_answers (h : Raises reply f) : ¬Answers reply answer := by
  intro hanswers
  cases h with
  | posting => cases hanswers
  | readingText hstatus htext =>
      cases hanswers with
      | intro hok => exact hstatus hok
  | readingData hstatus hdata =>
      cases hanswers with
      | intro _ hdata' => cases hdata.symm.trans hdata'

theorem Raises.unique (h : Raises reply f) (h' : Raises reply f') : f' = f := by
  cases h with
  | posting => cases h'; rfl
  | readingText hstatus htext =>
      cases h' with
      | readingText _ htext' => exact Except.error.inj (htext'.symm.trans htext)
      | readingData hok => exact absurd hok hstatus
  | readingData hstatus hdata =>
      cases h' with
      | readingText hother => exact absurd hstatus hother
      | readingData _ hdata' => exact Except.error.inj (hdata'.symm.trans hdata)

theorem Answers.unique (h : Answers reply answer) (h' : Answers reply answer') : answer' = answer := by
  obtain ⟨-, hdata, hanswer⟩ := h
  obtain ⟨-, hdata', hanswer'⟩ := h'
  cases hdata.symm.trans hdata'
  cases hanswer.symm.trans hanswer'
  rfl

end HttpReply

namespace AnswerClient

variable {ρ : Type}

theorem answerText?_eq_some {data : Json} {answer : Text} : answerText? data = some answer ↔
    ∃ entries, data = .object entries ∧ entries.lookup ("answer" : Text) = some (.text answer) := by
  constructor
  · intro h
    unfold answerText? at h
    split at h
    · next hget =>
        cases h
        cases data with
        | object entries => exact ⟨entries, rfl, hget⟩
        | _ => cases hget
    · cases h
  · rintro ⟨entries, rfl, hlookup⟩
    rw [answerText?, Json.get?, hlookup]

/-! ### The course of a call -/

/-- Whether the client knows a failure of the connection: a timeout, a fault of the HTTP client, or a value
that something cannot work with. -/
def knows (f : Failure) : Bool :=
  f.isFault FaultKind.isTimeout || (f.isFault FaultKind.isHttpClient || f.isFault FaultKind.isValue)

def knownLine (f : Failure) : Log.Line :=
  if f.isFault FaultKind.isTimeout then ⟨.error, logger, "Answer service request timed out"⟩
  else ⟨.error, logger, "Answer service request failed: " ++ f.message⟩

def knownReason (f : Failure) : Text :=
  if f.isFault FaultKind.isTimeout then "answer service request timed out"
  else "answer service request failed: " ++ f.message

/-- How a call ends, by what the session makes of the post, and the line about it if it failed. -/
inductive Course : Except Failure HttpReply → Except Failure Text → Option Log.Line → Prop
  | answered {reply : Except Failure HttpReply} {answer : Text} (h : HttpReply.Answers reply answer) :
      Course reply (.ok answer) none
  | refused {reply : HttpReply} {said : Text} (hstatus : reply.status ≠ 200)
      (htext : reply.text = .ok said) :
      Course (.ok reply) (.error (.internal ("answer service returned " ++ decimalText reply.status) none))
        (some ⟨.error, logger, "Answer service error: " ++ decimalText reply.status ++ ", " ++ said⟩)
  | malformed {reply : HttpReply} {data : Json} (hstatus : reply.status = 200)
      (hdata : reply.data = .ok data) (hnone : answerText? data = none) :
      Course (.ok reply) (.error (.internal "answer service returned a malformed response" none))
        (some ⟨.error, logger, "Malformed answer service response: " ++ data.quotedDisplay⟩)
  | known {reply : Except Failure HttpReply} {f : Failure} (h : HttpReply.Raises reply f)
      (hknown : knows f = true) :
      Course reply (.error (.internal (knownReason f) (some f.kind))) (some (knownLine f))
  | unknown {reply : Except Failure HttpReply} {f : Failure} (h : HttpReply.Raises reply f)
      (hknown : knows f = false) : Course reply (.error f) none

namespace Course

variable {reply : Except Failure HttpReply} {result : Except Failure Text} {line : Option Log.Line}

theorem result_of_answers (h : Course reply result line) {answer : Text}
    (hanswer : HttpReply.Answers reply answer) : result = .ok answer := by
  cases h with
  | answered h => rw [hanswer.unique h]
  | refused hstatus =>
      cases hanswer with
      | intro hok => exact absurd hok hstatus
  | malformed _ hdata hnone =>
      cases hanswer with
      | intro _ hdata' hlookup =>
          have hsome := answerText?_eq_some.mpr ⟨_, Except.ok.inj (hdata.symm.trans hdata'), hlookup⟩
          cases hnone.symm.trans hsome
  | known h | unknown h => exact absurd hanswer h.not_answers

theorem result_of_raises (h : Course reply result line) {f : Failure} (hf : HttpReply.Raises reply f) :
    result = .error (if knows f then .internal (knownReason f) (some f.kind) else f) := by
  cases h with
  | answered h => exact absurd h hf.not_answers
  | refused hstatus htext =>
      cases hf with
      | readingText _ htext' => cases htext.symm.trans htext'
      | readingData hok => exact absurd hok hstatus
  | malformed hstatus hdata =>
      cases hf with
      | readingText hother => exact absurd hstatus hother
      | readingData _ hdata' => cases hdata.symm.trans hdata'
  | known h hknown =>
      obtain rfl := hf.unique h
      rw [if_pos hknown]
  | unknown h hknown =>
      obtain rfl := hf.unique h
      rw [hknown]
      rfl

/-- A call that has no answer to give, and is met by no failure that the client does not know, is reported
before it fails. -/
theorem reported (h : Course reply result line) (hnone : ∀ answer, ¬HttpReply.Answers reply answer)
    (hknown : ∀ f, HttpReply.Raises reply f → knows f = true) : ∃ reason cause message,
      result = .error (.internal reason cause) ∧ line = some ⟨.error, logger, message⟩ := by
  cases h with
  | answered h => exact absurd h (hnone _)
  | refused | malformed => exact ⟨_, _, _, rfl, rfl⟩
  | @known _ f _ _ =>
      refine ⟨_, _, (knownLine f).message, rfl, ?_⟩
      rw [knownLine]
      split <;> rfl
  | unknown h hunknown => cases hunknown.symm.trans (hknown _ h)

end Course

def withServer (server : ρ) (c : AnswerClient ρ) : AnswerClient ρ :=
  { c with network := { c.network with server } }

/-- The session that the next post goes over. -/
def nextSession (c : AnswerClient ρ) : HttpSession :=
  c.session.getD ⟨c.network.opened.length, c.timeout⟩

def inUse (c : AnswerClient ρ) : AnswerClient ρ :=
  match c.session with
  | some _ => c
  | none => { c with
      session := some c.nextSession
      network := { c.network with opened := c.network.opened ++ [c.nextSession] } }

variable [AnswerServer ρ] (c : AnswerClient ρ) (question : Json) (j : Journal)

/-- What the server makes of a question. -/
def posted : Except Failure HttpReply × ρ :=
  AnswerServer.post c.nextSession c.address (.object [("question", question)]) c.network.server

/-- The clock beside the server, and the client when it was read. -/
def clocked : Binary64 × AnswerClient ρ :=
  ((AnswerServer.clock c.network.server).1, c.withServer (AnswerServer.clock c.network.server).2)

theorem outcome_readClock : readClock.outcome c j = ⟨.ok c.clocked.1, c.clocked.2, j⟩ := rfl

omit [AnswerServer ρ] in
theorem outcome_currentSession : currentSession.outcome c j = ⟨.ok c.nextSession, c.inUse, j⟩ := by
  rw [currentSession, outcome_bind, outcome_get, andThen_ok, nextSession, inUse]
  cases hsession : c.session with
  | some session => rfl
  | none => simp only [nextSession, hsession]; rfl

theorem outcome_post_inUse : (post c.nextSession question).outcome c.inUse j =
    ⟨(c.posted question).1, c.inUse.withServer (c.posted question).2, j⟩ := by
  have haddress : c.inUse.address = c.address := by rw [inUse]; split <;> rfl
  have hserver : c.inUse.network.server = c.network.server := by rw [inUse]; split <;> rfl
  have hposted : AnswerServer.post c.nextSession c.inUse.address (.object [("question", question)])
      c.inUse.network.server = c.posted question := by rw [posted, haddress, hserver]
  rw [post, outcome_bind, outcome_get, andThen_ok, hposted]
  rfl

omit [AnswerServer ρ] in
theorem outcome_translated (f : Failure) : (translated f).outcome c j =
    if knows f then ⟨.error (.internal (knownReason f) (some f.kind)), c, j.write (knownLine f)⟩
    else ⟨.error f, c, j⟩ := by
  rw [translated, knows, knownReason, knownLine]
  cases f.isFault FaultKind.isTimeout with
  | true => rfl
  | false => cases f.isFault FaultKind.isHttpClient || f.isFault FaultKind.isValue <;> rfl

omit [AnswerServer ρ] in
/-- A reply is read to its data, or a failure is raised; it is the client that raises one if the reply has
another status than 200 and a text. -/
theorem outcome_replyData (reply : HttpReply) : (replyData reply).outcome c j =
    if reply.status = 200 then ⟨reply.data, c, j⟩ else match reply.text with
      | .ok said => ⟨.error (.internal ("answer service returned " ++ decimalText reply.status) none), c,
          j.write ⟨.error, logger, "Answer service error: " ++ decimalText reply.status ++ ", " ++ said⟩⟩
      | .error f => ⟨.error f, c, j⟩ := by
  rw [replyData]
  by_cases hstatus : reply.status = 200
  · rw [if_pos hstatus, if_neg (not_not.mpr hstatus), outcome_ofExcept]
  · rw [if_neg hstatus, if_pos hstatus]
    cases reply.text <;> rfl

omit [AnswerServer ρ] in
theorem exists_course_of_data {reply : HttpReply} {data : Json} (hstatus : reply.status = 200)
    (hdata : reply.data = .ok data) : ∃ result line, Course (.ok reply) result line ∧
      outcome (match answerText? data with
        | some answer => return answer
        | none => do
          Action.log .error logger ("Malformed answer service response: " ++ data.quotedDisplay)
          throw (.internal "answer service returned a malformed response" none)) c j =
        ⟨result, c, j.report line⟩ := by
  cases hanswer : answerText? data with
  | some answer =>
      obtain ⟨entries, rfl, hlookup⟩ := answerText?_eq_some.mp hanswer
      exact ⟨_, _, .answered (.intro hstatus hdata hlookup), rfl⟩
  | none => exact ⟨_, _, .malformed hstatus hdata hanswer, rfl⟩

omit [AnswerServer ρ] in
/-- A failure that the session raises is translated, or comes out as it is; nothing is read from it. -/
theorem exists_course_of_raises {reply : Except Failure HttpReply} {f : Failure}
    (h : HttpReply.Raises reply f) : ∃ result line, Course reply result line ∧
      ∀ next : Json → Action (AnswerClient ρ) Text,
        outcome (do next (← translated f)) c j = ⟨result, c, j.report line⟩ := by
  cases hknown : knows f with
  | true =>
      refine ⟨_, _, .known h hknown, fun next => ?_⟩
      rw [outcome_bind, outcome_translated, hknown, if_pos rfl]
      rfl
  | false =>
      refine ⟨_, _, .unknown h hknown, fun next => ?_⟩
      rw [outcome_bind, outcome_translated, hknown]
      rfl

/-- Whatever the session makes of the post, a call takes its course: the client has a session in use after
it, and the line about the call is all that is written. -/
theorem exists_course_ask : ∃ result line, Course (c.posted question).1 result line ∧
    (ask question).outcome c j =
      ⟨result, c.inUse.withServer (c.posted question).2, j.report line⟩ := by
  rw [ask, outcome_bind, outcome_currentSession, andThen_ok, outcome_bind, outcome_attempt, andThen_ok,
    outcome_bind, outcome_post_inUse]
  generalize (c.posted question).1 = reply
  cases reply with
  | error f =>
      obtain ⟨result, line, hcourse, hask⟩ := exists_course_of_raises _ j .posting
      exact ⟨result, line, hcourse, hask _⟩
  | ok reply =>
      rw [andThen_ok, outcome_replyData]
      by_cases hstatus : reply.status = 200
      · rw [if_pos hstatus]
        cases hdata : reply.data with
        | error f =>
            obtain ⟨result, line, hcourse, hask⟩ := exists_course_of_raises _ j (.readingData hstatus hdata)
            exact ⟨result, line, hcourse, hask _⟩
        | ok data => exact exists_course_of_data _ _ hstatus hdata
      · rw [if_neg hstatus]
        cases htext : reply.text with
        | error f =>
            obtain ⟨result, line, hcourse, hask⟩ := exists_course_of_raises _ j (.readingText hstatus htext)
            exact ⟨result, line, hcourse, hask _⟩
        -- The client's own failure is no fault of a class that it knows, so it comes out of the exchange.
        | ok said => exact ⟨_, _, .refused hstatus htext, rfl⟩

/-- What the session makes of a question that the client is called with. -/
def reply : Except Failure HttpReply := (c.clocked.2.posted question).1

/-- A call takes its course between two readings of the clock; the line about the time follows. -/
theorem exists_course : ∃ result line server elapsed, Course (c.reply question) result line ∧
    (answer question).outcome c j = ⟨result, c.inUse.withServer server,
      (j.report line).write (timedLine logger "get_answer" elapsed result)⟩ := by
  obtain ⟨result, line, hcourse, hask⟩ := exists_course_ask c.clocked.2 question j
  have hstate : (c.clocked.2.inUse.withServer (c.clocked.2.posted question).2).clocked.2 =
      c.inUse.withServer (AnswerServer.clock (c.clocked.2.posted question).2).2 := by
    rw [inUse, inUse]
    cases hsession : c.session <;> simp [clocked, withServer, nextSession, hsession]
  rw [answer, outcome_timed outcome_readClock, hask]
  dsimp only
  rw [hstate]
  exact ⟨result, line, _, _, hcourse, rfl⟩

/-! ### How a call fails -/

/-- Whether a call ends as its callers are told, by what the session made of the post: with the answer in
the reply, and without one with an internal failure after an error line about it and one about the time. -/
structure EndsAsTold (reply : Except Failure HttpReply) (j : Journal)
    (o : Outcome (AnswerClient ρ) Text) : Prop where
  answers : ∀ answer, HttpReply.Answers reply answer → o.result = .ok answer
  fails : (∀ answer, ¬HttpReply.Answers reply answer) →
    (∃ reason cause, o.result = .error (.internal reason cause)) ∧ ∃ message timed,
      o.journal = (j.write ⟨.error, logger, message⟩).write ⟨.error, logger, timed⟩

/-- A call ends as its callers are told exactly unless the session raises a failure that the client does not
know, which comes out as it is; one that it knows is the cause of the internal failure. -/
theorem answer_endsAsTold_iff (hfault : ∀ f, HttpReply.Raises (c.reply question) f →
    ∃ kind message, f = .fault kind message) :
    (EndsAsTold (c.reply question) j ((answer question).outcome c j) ↔
      ∀ f, HttpReply.Raises (c.reply question) f → knows f = true) ∧
    ∀ f, HttpReply.Raises (c.reply question) f → ((answer question).outcome c j).result =
      .error (if knows f then .internal (knownReason f) (some f.kind) else f) := by
  obtain ⟨result, line, server, elapsed, hcourse, hanswer⟩ := c.exists_course question j
  rw [hanswer]
  refine ⟨⟨fun htold f hf => ?_, fun hknown => ⟨fun answer h => ?_, fun hnone => ?_⟩⟩, fun f hf => ?_⟩
  · obtain ⟨⟨reason, cause, hinternal⟩, -⟩ := htold.fails fun answer => hf.not_answers
    by_contra hunknown
    obtain ⟨kind, message, rfl⟩ := hfault f hf
    rw [hcourse.result_of_raises hf, if_neg hunknown] at hinternal
    cases hinternal
  · exact hcourse.result_of_answers h
  · obtain ⟨reason, cause, message, rfl, rfl⟩ := hcourse.reported hnone hknown
    exact ⟨⟨reason, cause, rfl⟩, message, _, rfl⟩
  · exact hcourse.result_of_raises hf

/-- A client that has not opened a session yet, of a server that gives every post one reply. -/
def scripted (reply : Except Failure HttpReply) : AnswerClient ScriptedPeer :=
  .owning "http://answers" (.zero false) { server := { reply } }

/-- A connection that breaks off while the data are read is a fault that the client knows. -/
theorem endsAsTold_brokenOff :
    let reply : Except Failure HttpReply := .ok ⟨200, .ok "", .error (.fault .httpPayload "broken off")⟩
    let o := (answer (.text "Why?")).outcome (scripted reply) .ordinary
    (∀ f, HttpReply.Raises reply f → ∃ kind message, f = .fault kind message) ∧
      EndsAsTold reply .ordinary o ∧ o.result = .error
        (.internal "answer service request failed: broken off" (some (.fault .httpPayload))) := by
  intro reply o
  have hraises : HttpReply.Raises reply (.fault .httpPayload "broken off") := .readingData rfl rfl
  have hfault : ∀ f, HttpReply.Raises reply f → ∃ kind message, f = .fault kind message := by
    intro f hf
    rw [hraises.unique hf]
    exact ⟨_, _, rfl⟩
  obtain ⟨htold, hresult⟩ := answer_endsAsTold_iff (scripted reply) (.text "Why?") .ordinary hfault
  refine ⟨hfault, htold.mpr fun f hf => ?_, hresult _ hraises⟩
  rw [hraises.unique hf]
  rfl

/-- A fault of the system, and of no other class. -/
def refusal : Failure := .fault .system "refused"

/-- A refusal when the question is posted is none of the faults that the client knows, and comes out. -/
theorem not_endsAsTold_refusal :
    refusal.isFault FaultKind.isSystem = true ∧
      ((answer (.text "Why?")).outcome (scripted (.error refusal)) .ordinary).result = .error refusal ∧
      ¬EndsAsTold (.error refusal) .ordinary
        ((answer (.text "Why?")).outcome (scripted (.error refusal)) .ordinary) := by
  have hresult : ((answer (.text "Why?")).outcome (scripted (.error refusal)) .ordinary).result =
      .error refusal := rfl
  refine ⟨rfl, hresult, fun htold => ?_⟩
  obtain ⟨⟨reason, cause, hinternal⟩, -⟩ := htold.fails fun answer => HttpReply.Raises.posting.not_answers
  cases hresult.symm.trans hinternal

end AnswerClient

end QuestionBoard
