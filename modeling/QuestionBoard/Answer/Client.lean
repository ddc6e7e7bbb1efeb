import QuestionBoard.Answer.Source
import QuestionBoard.Log.Timed

/-!
The source of answers that asks a server over HTTP. The client works on a session that it was lent,
or opens one of its own when it first needs it; it closes what it opened and nothing else. Whatever
the server does that is no answer becomes an internal failure with an error line, and so do the
faults of the connection that the client knows.
-/

namespace QuestionBoard

/-- What a server replies: a status, and what reading the body comes to, as a text and as data. -/
structure HttpReply where
  status : Int
  text : Except Failure Text
  data : Except Failure Json

/-- A session: its number among those that were opened, and the longest that a request may take. -/
structure HttpSession where
  number : Nat
  timeout : Binary64

/-- Servers that take posts of data to an address over a session, and the clock beside them. -/
class AnswerServer (ρ : Type) where
  post : HttpSession → Text → Json → ρ → Except Failure HttpReply × ρ
  clock : ρ → Binary64 × ρ

/-- A server and the sessions that were opened to it and closed again. -/
structure HttpNetwork (ρ : Type) where
  server : ρ
  opened : List HttpSession := []
  /-- The numbers of the sessions, in the order in which they were closed. -/
  closed : List Nat := []

namespace HttpNetwork

variable {ρ : Type}

def openSession (timeout : Binary64) (n : HttpNetwork ρ) : HttpSession × HttpNetwork ρ :=
  let session := ⟨n.opened.length, timeout⟩
  (session, { n with opened := n.opened ++ [session] })

def closeSession (session : HttpSession) (n : HttpNetwork ρ) : HttpNetwork ρ :=
  { n with closed := n.closed ++ [session.number] }

end HttpNetwork

structure AnswerClient (ρ : Type) where
  address : Text
  timeout : Binary64
  session : Option HttpSession
  /-- Whether the client opens its sessions itself. -/
  ownsSession : Bool
  network : HttpNetwork ρ

namespace AnswerClient

variable {ρ : Type} [AnswerServer ρ]

/-- The name under which the client writes log lines. -/
def logger : String := "qna.domain.answers.client"

def addressAt (base : Text) : Text :=
  .ofPoints (base.points.reverse.dropWhile (· == .char '/')).reverse ++ "/answer"

/-- A client that will open its own session. -/
def owning (base : Text) (timeout : Binary64) (network : HttpNetwork ρ) : AnswerClient ρ :=
  ⟨addressAt base, timeout, none, true, network⟩

/-- A client that works on a session of someone else. -/
def borrowing (base : Text) (timeout : Binary64) (session : HttpSession) (network : HttpNetwork ρ) :
    AnswerClient ρ :=
  ⟨addressAt base, timeout, some session, false, network⟩

/-- The session in use, opened if there is none. -/
def currentSession : Action (AnswerClient ρ) HttpSession := do
  let c ← get
  match c.session with
  | some session => return session
  | none =>
    let (session, network) := c.network.openSession c.timeout
    set { c with session := some session, network }
    return session

def post (session : HttpSession) (question : Json) : Action (AnswerClient ρ) HttpReply := do
  let c ← get
  let (reply, server) :=
    AnswerServer.post session c.address (.object [("question", question)]) c.network.server
  set { c with network := { c.network with server } }
  Action.ofExcept reply

def replyData (reply : HttpReply) : Action (AnswerClient ρ) Json := do
  if reply.status ≠ 200 then
    let said ← Action.ofExcept reply.text
    Action.log .error logger
      ("Answer service error: " ++ decimalText reply.status ++ ", " ++ said)
    throw (.internal ("answer service returned " ++ decimalText reply.status) none)
  Action.ofExcept reply.data

/-- The internal failure for a fault of the connection, if it is one that the client knows, after
one error line. -/
def translated (f : Failure) : Action (AnswerClient ρ) Json := do
  if f.isFault FaultKind.isTimeout then
    Action.log .error logger "Answer service request timed out"
    throw (.internal "answer service request timed out" (some f.kind))
  if f.isFault FaultKind.isHttpClient || f.isFault FaultKind.isValue then
    Action.log .error logger ("Answer service request failed: " ++ f.message)
    throw (.internal ("answer service request failed: " ++ f.message) (some f.kind))
  throw f

def answerText? (data : Json) : Option Text :=
  match data.get? "answer" with
  | some (.text answer) => some answer
  | _ => none

def ask (question : Json) : Action (AnswerClient ρ) Text := do
  let session ← currentSession
  let exchange : Action (AnswerClient ρ) Json := do replyData (← post session question)
  let data ← match ← exchange.attempt with
    | .ok data => pure data
    | .error f => translated f
  match answerText? data with
  | some answer => return answer
  | none =>
    Action.log .error logger ("Malformed answer service response: " ++ data.quotedDisplay)
    throw (.internal "answer service returned a malformed response" none)

def readClock : Action (AnswerClient ρ) Binary64 := do
  let c ← get
  let (reading, server) := AnswerServer.clock c.network.server
  set { c with network := { c.network with server } }
  return reading

/-- The answer to a question, with a log line about the time that it took. -/
def answer (question : Json) : Action (AnswerClient ρ) Text :=
  Action.timed readClock logger "get_answer" (ask question)

/-- Gives the session up, and closes it if the client opened it. -/
def close : Action (AnswerClient ρ) Unit := modify fun c =>
  match c.session with
  | some session =>
    { c with
      session := none
      network := if c.ownsSession then c.network.closeSession session else c.network }
  | none => c

instance : AnswerSource (AnswerClient ρ) where
  answer := answer
  close := close

end AnswerClient

end QuestionBoard
