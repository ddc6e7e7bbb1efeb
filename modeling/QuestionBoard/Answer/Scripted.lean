import QuestionBoard.Answer.Client
import QuestionBoard.Number.Decimal

/-!
Sources of answers whose behaviour is set beforehand: a server that gives every post over the first
session the same reply, by a clock that stands still, and a source that numbers its answers.
-/

namespace QuestionBoard

/-- A server at the end of the first session, that gives every post the same reply. -/
structure ScriptedPeer where
  reply : Except Failure HttpReply
  /-- The posts so far: their addresses and data, in order. -/
  posts : List (Text × Json) := []

/-- The failure of a post to an address without a host. -/
def ScriptedPeer.noHost (address : Text) : Failure :=
  .fault (.other "InvalidUrlClientError" { httpClient := true, value := true }) address

/-- Nothing is at the end of a later session, so the addresses there have no host. -/
instance : AnswerServer ScriptedPeer where
  post session address data s :=
    if session.number = 0 then (s.reply, { s with posts := s.posts ++ [(address, data)] })
    else (.error (ScriptedPeer.noHost address), s)
  clock s := (.zero false, s)

/-- A source that numbers its answers, and fails if it is told to. -/
structure NumberingSource where
  /-- How often it was asked. -/
  calls : Nat := 0
  fault : Option Failure := none

instance : AnswerSource NumberingSource where
  answer question := do
    modify fun s => { s with calls := s.calls + 1 }
    let s ← get
    if let some f := s.fault then throw f
    return "A" ++ decimalDigits s.calls ++ ":" ++ question.display

end QuestionBoard
