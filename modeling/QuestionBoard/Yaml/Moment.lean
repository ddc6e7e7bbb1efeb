import QuestionBoard.Json.Reader
import QuestionBoard.Time.Calendar

/-!
Dates and times in YAML: a date by itself, or one with a time of day and perhaps an offset from universal
time. A text may have the form of one and still name no day, no time of day or no offset.
-/

namespace QuestionBoard

namespace Yaml

/-- The number that digits at the front of a text write, as many as are allowed, and what follows. -/
def leadingNumber? (least most : Nat) (cs : List Char) : Option (Nat × List Char) :=
  let (digits, rest) := Json.spanDigits cs
  if least ≤ digits.length ∧ digits.length ≤ most then some (numberOf digits, rest) else none

/-- What follows a character. -/
def after? (c : Char) : List Char → Option (List Char)
  | d :: rest => if d == c then some rest else none
  | [] => none

/-- Reads a year, a month and a day with hyphens between them. -/
def date? (cs : List Char) : Option ((Nat × Nat × Nat) × List Char) := do
  let (year, rest) ← leadingNumber? 4 4 cs
  let (month, rest) ← leadingNumber? 1 2 (← after? '-' rest)
  let (day, rest) ← leadingNumber? 1 2 (← after? '-' rest)
  return ((year, month, day), rest)

/-- Reads an hour, a minute and a second with colons between them, and a fraction of a second. -/
def clock? (cs : List Char) : Option ((Nat × Nat × Nat) × List Char) := do
  let (hour, rest) ← leadingNumber? 1 2 cs
  let (minute, rest) ← leadingNumber? 2 2 (← after? ':' rest)
  let (second, rest) ← leadingNumber? 2 2 (← after? ':' rest)
  match rest with
  | '.' :: fraction => return ((hour, minute, second), (Json.spanDigits fraction).2)
  | _ => return ((hour, minute, second), rest)

def isLineBlank (c : Char) : Bool := c == ' ' || c == '\t'

/-- What follows the letter or the blanks between a date and a time of day. -/
def afterDate? : List Char → Option (List Char)
  | c :: rest =>
    if c == 'T' || c == 't' then some rest
    else if isLineBlank c then some (rest.dropWhile isLineBlank)
    else none
  | [] => none

/-- The minutes of an offset, after which nothing follows. -/
def offset? (cs : List Char) : Option Nat :=
  match cs.dropWhile isLineBlank with
  | [] => if cs.isEmpty then some 0 else none
  | ['Z'] => some 0
  | sign :: rest =>
    if sign == '+' || sign == '-' then do
      let (hours, rest) ← leadingNumber? 1 2 rest
      match rest with
      | [] => return 60 * hours
      | _ =>
        let (minutes, rest) ← leadingNumber? 2 2 (← after? ':' rest)
        if rest.isEmpty then return 60 * hours + minutes else none
    else none

/-- Why there is no such offset. -/
def offsetFault? (minutes : Nat) : Option String :=
  if minutes < 1440 then none
  else some "offset must be a timedelta strictly between -timedelta(hours=24) and timedelta(hours=24)"

/-- Why there is no such day. -/
def dateFault? : Nat × Nat × Nat → Option String
  | (year, month, day) =>
    if year = 0 then some "year 0 is out of range"
    else if month = 0 ∨ 12 < month then some "month must be in 1..12"
    else if day = 0 ∨ CivilTime.daysIn year month < day then some "day is out of range for month"
    else none

/-- Why there is no such time of day. -/
def clockFault? : Nat × Nat × Nat → Option String
  | (hour, minute, second) =>
    if 23 < hour then some "hour must be in 0..23"
    else if 59 < minute then some "minute must be in 0..59"
    else if 59 < second then some "second must be in 0..59"
    else none

/-- Why there is no such date or time, if a text has the form of one and there is none. Without a time of
day the month and the day have two digits. -/
def momentFault? (cs : List Char) : Option (Option String) := do
  let (date, rest) ← date? cs
  match rest with
  | [] => if cs.length = 10 then return dateFault? date else none
  | _ =>
    let (clock, rest) ← clock? (← afterDate? rest)
    let offset ← offset? rest
    return offsetFault? offset <|> dateFault? date <|> clockFault? clock

end Yaml

end QuestionBoard
