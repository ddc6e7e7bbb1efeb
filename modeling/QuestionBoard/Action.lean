import QuestionBoard.Failure.Basic
import QuestionBoard.Log.Line

/-!
Actions: steps that may change a state, write log lines and fail. What was done before a failure
stays done.
-/

namespace QuestionBoard

/-- A step on a state `σ` that gives an `α` or fails, writing to a journal. -/
abbrev Action (σ α : Type) := ExceptT Failure (StateT σ (StateM Journal)) α

namespace Action

variable {σ τ α β : Type}

/-- What a step came to, with the state and the journal after it. -/
structure Outcome (σ α : Type) where
  result : Except Failure α
  state : σ
  journal : Journal

/-- Runs a step. -/
def outcome (a : Action σ α) (state : σ) (journal : Journal) : Outcome σ α :=
  let ((result, state), journal) := (ExceptT.run a).run state |>.run journal
  ⟨result, state, journal⟩

def ofOutcome (run : σ → Journal → Outcome σ α) : Action σ α :=
  ExceptT.mk fun state journal =>
    let o := run state journal
    ((o.result, o.state), o.journal)

def ofExcept (result : Except Failure α) : Action σ α := ExceptT.mk (pure result)

/-- Writes a log line. -/
def log (level : Log.Level) (logger : String) (message : Text) : Action σ Unit :=
  ofOutcome fun state journal => ⟨.ok (), state, journal.write ⟨level, logger, message⟩⟩

/-- Sets the least severity that is written from here on. -/
def setThreshold (threshold : Int) : Action σ Unit :=
  ofOutcome fun state journal => ⟨.ok (), state, { journal with threshold }⟩

/-- A step on a part of the state. -/
def onPart (part : σ → τ) (put : τ → σ → σ) (a : Action τ α) : Action σ α :=
  ofOutcome fun state journal =>
    let o := a.outcome (part state) journal
    ⟨o.result, put o.state state, o.journal⟩

/-- The result of a step, its failure included; this step itself never fails. -/
def attempt (a : Action σ α) : Action σ (Except Failure α) :=
  ofOutcome fun state journal =>
    let o := a.outcome state journal
    ⟨.ok o.result, o.state, o.journal⟩

/-- A step on a value beside the state: its result, its failure included, and the value after it. -/
def beside (a : Action τ α) (value : τ) : Action σ (Except Failure α × τ) :=
  ofOutcome fun state journal =>
    let o := a.outcome value journal
    ⟨.ok (o.result, o.state), state, o.journal⟩

end Action

end QuestionBoard
