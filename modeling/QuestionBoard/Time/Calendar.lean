import QuestionBoard.Failure.Basic
import QuestionBoard.Number.Decimal

/-!
Dates and times of day where the program runs, by the Gregorian calendar carried back without end. An
instant is a number of seconds since the start of 1970 in universal time.
-/

namespace QuestionBoard

/-- The clocks of a place: how far they are ahead of universal time at an instant, in seconds, and what
their time is called. -/
structure Zone where
  ahead : Int → Int := fun _ => 0
  name : Int → String := fun _ => "UTC"

/-- A date and a time of day. -/
structure CivilTime where
  year : Int
  month : Nat
  day : Nat
  hour : Nat
  minute : Nat
  second : Nat
  /-- The day of the week, from Sunday. -/
  weekday : Nat
  /-- The day of the year, from 0. -/
  yearDay : Nat
  /-- How far the clock is ahead of universal time, in seconds. -/
  ahead : Int := 0
  zoneName : String := "UTC"
  deriving DecidableEq, Repr

namespace CivilTime

def daySeconds : Nat := 86400

/-- The days from the start of March of the year 0 to the start of 1970. -/
def epochDays : Int := 719468

/-- Whether a year has a 29th of February. -/
def isLeap (year : Int) : Bool := year % 4 == 0 && (year % 100 != 0 || year % 400 == 0)

/-- The year, month and day that lie a number of days after the start of 1970. Years are counted
from March, so that a leap day is the last of its year. -/
def dateOfDays (days : Int) : Int × Nat × Nat :=
  let z := days + epochDays
  let era := z.fdiv 146097
  let dayOfEra := (z - era * 146097).toNat
  let yearOfEra := (dayOfEra - dayOfEra / 1460 + dayOfEra / 36524 - dayOfEra / 146096) / 365
  let dayOfYear := dayOfEra - (365 * yearOfEra + yearOfEra / 4 - yearOfEra / 100)
  let marchMonth := (5 * dayOfYear + 2) / 153
  let day := dayOfYear - (153 * marchMonth + 2) / 5 + 1
  let month := if marchMonth < 10 then marchMonth + 3 else marchMonth - 9
  (yearOfEra + era * 400 + (if month ≤ 2 then 1 else 0), month, day)

def daysBefore (year : Int) (month : Nat) : Nat :=
  let common := [0, 31, 59, 90, 120, 151, 181, 212, 243, 273, 304, 334].getD (month - 1) 0
  if 2 < month && isLeap year then common + 1 else common

def daysIn (year : Int) (month : Nat) : Nat :=
  if month = 12 then 31 else daysBefore year (month + 1) - daysBefore year month

def ofSeconds (zone : Zone) (instant : Int) : CivilTime :=
  let seconds := instant + zone.ahead instant
  let days := seconds.fdiv daySeconds
  let rest := (seconds - days * daySeconds).toNat
  let (year, month, day) := dateOfDays days
  { year, month, day
    hour := rest / 3600
    minute := rest / 60 % 60
    second := rest % 60
    weekday := ((days + 4) % 7).toNat
    yearDay := daysBefore year month + day - 1
    ahead := zone.ahead instant
    zoneName := zone.name instant }

def twoDigits (n : Nat) : String := zeroPadded 2 (decimalDigits n)

/-- The time of day with colons. -/
def clockText (t : CivilTime) : String :=
  twoDigits t.hour ++ ":" ++ twoDigits t.minute ++ ":" ++ twoDigits t.second

/-- The date with hyphens, for a year from 1 to 9999. -/
def dateText (t : CivilTime) : String :=
  zeroPadded 4 (decimalText t.year) ++ "-" ++ twoDigits t.month ++ "-" ++ twoDigits t.day

end CivilTime

/-! ### Instants as text -/

namespace Timestamp

/-- The failure of an instant outside the years 1 to 9999. -/
def yearOutOfRange (year : Int) : Failure :=
  .fault .value ("year " ++ decimalText year ++ " is out of range")

/-- The failure of an instant that is no 64-bit number of seconds. -/
def secondsOutOfRange : Failure := .fault .overflow "timestamp out of range for platform time_t"

/-- The instant as whole seconds and microseconds. The fraction times a million is rounded as a
binary number and then to a whole number, a tie going to the even one. -/
def secondsAndMicros (instant : Binary64) : Except Failure (Int × Nat) :=
  match instant with
  | .notANumber => .error (.fault .value "Invalid value NaN (not a number)")
  | .infinite _ => .error secondsOutOfRange
  | .finite negative _ _ _ =>
    let whole := instant.truncate?.getD 0
    let micros := match instant.fraction * .ofInt 1000000 with
      | .finite _ m e _ =>
        let (n, d) := Binary64.magnitude m e
        roundHalfEven n d
      | _ => 0
    let (seconds, micros) :=
      if negative then (if micros = 0 then (whole, 0) else (whole - 1, 1000000 - micros))
      else if micros = 1000000 then (whole + 1, 0)
      else (whole, micros)
    if seconds < -Nat.pow 2 63 ∨ Nat.pow 2 63 ≤ seconds then .error secondsOutOfRange
    else .ok (seconds, micros)

/-- The date and time of an instant whose day and the day before lie in the years 1 to 9999. -/
def civil (zone : Zone) (seconds : Int) : Except Failure CivilTime := do
  let t := CivilTime.ofSeconds zone seconds
  if Nat.pow 2 31 + 1900 ≤ t.year ∨ t.year < 1900 - Nat.pow 2 31 then
    throw (.fault .system "[Errno 75] Value too large for defined data type")
  if t.year < 1 ∨ 9999 < t.year then throw (yearOutOfRange t.year)
  let before := (CivilTime.ofSeconds zone (seconds - CivilTime.daySeconds)).year
  if before < 1 then throw (yearOutOfRange before)
  return t

/-- The instant with a `T` between date and time, and microseconds unless they are 0. -/
def text (zone : Zone) (instant : Binary64) : Except Failure String := do
  let (seconds, micros) ← secondsAndMicros instant
  let t ← civil zone seconds
  return t.dateText ++ "T" ++ t.clockText ++
    (if micros = 0 then "" else "." ++ zeroPadded 6 (decimalDigits micros))

end Timestamp

end QuestionBoard
