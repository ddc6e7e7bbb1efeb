import QuestionBoard.Action
import QuestionBoard.Number.Decimal

/-!
Timed steps: one log line says how long a step took, and whether it failed. The clock is read before
the step and after it; the step's result passes through.
-/

namespace QuestionBoard

namespace Action

def secondsText (seconds : Binary64) : String := seconds.fixed 3 ++ " seconds"

/-- Runs a step under a name, and logs how long it took by a clock. -/
def timed {σ α : Type} (clock : Action σ Binary64) (logger name : String) (step : Action σ α) :
    Action σ α := do
  let start ← clock
  let result ← step.attempt
  let elapsed := (← clock) - start
  match result with
  | .ok value =>
    log .debug logger (name ++ " executed in " ++ secondsText elapsed)
    return value
  | .error f =>
    log .error logger (name ++ " failed after " ++ secondsText elapsed ++ ": " ++ f.message)
    throw f

end Action

end QuestionBoard
