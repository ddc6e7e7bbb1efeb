import QuestionBoard.Time.Calendar

/-!
Dates and times by a pattern, in which a percent sign and a letter stand for a part of them. A pair
without a meaning stands for itself.
-/

namespace QuestionBoard

namespace CivilTime

/-- The names of the days of the week, from Sunday. -/
def dayNames : List String :=
  ["Sunday", "Monday", "Tuesday", "Wednesday", "Thursday", "Friday", "Saturday"]

def monthNames : List String :=
  ["January", "February", "March", "April", "May", "June", "July", "August", "September", "October",
    "November", "December"]

def dayName (t : CivilTime) : String := dayNames.getD t.weekday ""

def monthName (t : CivilTime) : String := monthNames.getD (t.month - 1) ""

/-- The first three letters of a name. -/
def shortName (name : String) : String := (name.take 3).toString

def clockHour (t : CivilTime) : Nat := if t.hour % 12 = 0 then 12 else t.hour % 12

def halfName (t : CivilTime) : String := if t.hour < 12 then "AM" else "PM"

def blankPadded (n : Nat) : String := if n < 10 then " " ++ decimalDigits n else decimalDigits n

/-- The month and the day with slashes, and the year without its century. -/
def slashedDate (t : CivilTime) : String :=
  twoDigits t.month ++ "/" ++ twoDigits t.day ++ "/" ++ twoDigits (t.year % 100).toNat

/-- How far the clock is ahead of universal time, as a sign, hours and minutes. -/
def offsetText (t : CivilTime) : String :=
  let minutes := t.ahead.natAbs / 60
  (if t.ahead < 0 then "-" else "+") ++ twoDigits (minutes / 60) ++ twoDigits (minutes % 60)

/-- The part of a date and time that a letter stands for. -/
def part? (t : CivilTime) : Char → Option String
  | 'Y' => some (decimalText t.year)
  | 'C' => some (twoDigits (t.year / 100).toNat)
  | 'y' => some (twoDigits (t.year % 100).toNat)
  | 'm' => some (twoDigits t.month)
  | 'd' => some (twoDigits t.day)
  | 'e' => some (blankPadded t.day)
  | 'H' => some (twoDigits t.hour)
  | 'k' => some (blankPadded t.hour)
  | 'I' => some (twoDigits t.clockHour)
  | 'l' => some (blankPadded t.clockHour)
  | 'M' => some (twoDigits t.minute)
  | 'S' => some (twoDigits t.second)
  | 'p' => some t.halfName
  | 'j' => some (zeroPadded 3 (decimalDigits (t.yearDay + 1)))
  | 'a' => some (shortName t.dayName)
  | 'A' => some t.dayName
  | 'b' | 'h' => some (shortName t.monthName)
  | 'B' => some t.monthName
  | 'w' => some (decimalDigits t.weekday)
  | 'u' => some (decimalDigits (if t.weekday = 0 then 7 else t.weekday))
  | 'U' => some (twoDigits ((t.yearDay + 7 - t.weekday) / 7))
  | 'W' => some (twoDigits ((t.yearDay + 7 - (t.weekday + 6) % 7) / 7))
  | 'F' => some (decimalText t.year ++ "-" ++ twoDigits t.month ++ "-" ++ twoDigits t.day)
  | 'T' | 'X' => some t.clockText
  | 'R' => some (twoDigits t.hour ++ ":" ++ twoDigits t.minute)
  | 'D' | 'x' => some t.slashedDate
  | 'r' => some (twoDigits t.clockHour ++ ":" ++ twoDigits t.minute ++ ":" ++ twoDigits t.second ++
      " " ++ t.halfName)
  | 'c' => some (shortName t.dayName ++ " " ++ shortName t.monthName ++ " " ++ blankPadded t.day ++
      " " ++ t.clockText ++ " " ++ decimalText t.year)
  | 'Z' => some t.zoneName
  | 'z' => some t.offsetText
  | 'n' => some "\n"
  | 't' => some "\t"
  | '%' => some "%"
  | _ => none

def byPattern (t : CivilTime) : List Char → String
  | [] => ""
  | '%' :: c :: rest =>
    (t.part? c).getD (String.ofList ['%', c]) ++ byPattern t rest
  | c :: rest => c.toString ++ byPattern t rest

end CivilTime

end QuestionBoard
