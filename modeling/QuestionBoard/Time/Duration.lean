import QuestionBoard.Failure.Basic

/-!
Durations in whole microseconds, up to 999999999 days in either direction.
-/

namespace QuestionBoard

/-- A length of time. -/
structure Duration where
  microseconds : Int
  deriving DecidableEq, Repr

namespace Duration

def maxDays : Int := 999999999

/-- The greatest number of days that a 32-bit word holds. -/
def maxWordDays : Int := 2147483647

/-- A number of seconds as a duration; too many days are refused. -/
def ofSeconds? (seconds : Int) : Except Failure Duration :=
  let days := Int.fdiv seconds 86400
  if days < -maxWordDays - 1 ∨ maxWordDays < days then
    .error (.fault .overflow "Python int too large to convert to C int")
  else if days < -maxDays ∨ maxDays < days then
    .error (.fault .overflow ("days=" ++ decimalText days ++ "; must have magnitude <= " ++
      decimalText maxDays))
  else .ok ⟨seconds * 1000000⟩

/-- The duration in seconds, rounded to the nearest binary64 number. -/
def totalSeconds (d : Duration) : Binary64 :=
  .ofRatio (decide (d.microseconds < 0)) d.microseconds.natAbs 1000000

def hour : Duration := ⟨3600000000⟩

end Duration

end QuestionBoard
