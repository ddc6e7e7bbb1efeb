import QuestionBoard.Log.Record
import QuestionBoard.Text.Class
import QuestionBoard.Text.Word
import QuestionBoard.Time.Pattern

/-!
Layouts: how a record is written on a handler, as text by a template of its fields or as JSON.
-/

namespace QuestionBoard

namespace Log

/-- A template of fields, and a pattern for the time. -/
structure TextLayout where
  template : String
  datePattern : String

/-- A way to write records. -/
inductive Layout
  | text (layout : TextLayout)
  | json

namespace TextLayout

/-- The template and the pattern that are used if no others are given. -/
def standard : TextLayout :=
  ⟨"%(asctime)s | %(levelname)-8s | %(name)-30s | %(message)s", "%Y-%m-%d %H:%M:%S"⟩

/-- What follows an amount, in digits of any script, or a star; the same text if there is none. -/
def skipAmount : List Char → List Char
  | '*' :: rest => rest
  | cs => cs.dropWhile fun c => (decimalDigit? c).isSome

/-- Whether a character is a conversion in either case; the dotted and the dotless i and the long s count as
an i and an s. -/
def isConversion (c : Char) : Bool :=
  "diouxefgcrsa%".toList.contains c.toLower || ['\u0130', '\u0131', '\u017f'].contains c

/-- Whether a text starts with a directive for a named field. -/
def startsWithField (cs : List Char) : Bool :=
  match cs with
  | '%' :: '(' :: rest =>
    let name := rest.takeWhile isWordChar
    match rest.dropWhile isWordChar with
    | ')' :: rest =>
      let rest := skipAmount (rest.dropWhile fun c => "#0+ -".toList.contains c)
      let conversion := match rest with
        | '.' :: digits => if (skipAmount digits).length < digits.length then skipAmount digits else []
        | _ => rest
      !name.isEmpty && (match conversion with
        | c :: _ => isConversion c
        | [] => false)
    | _ => false
  | _ => false

/-- Whether what a test asks for starts somewhere in a text. -/
def occurs (test : List Char → Bool) : List Char → Bool
  | [] => test []
  | c :: rest => test (c :: rest) || occurs test rest

/-- Whether a template has a directive for a named field. -/
def hasField (template : String) : Bool := occurs startsWithField template.toList

/-- A layout from a template; an empty one shows the message alone. -/
def ofTemplate (template datePattern : String) : Except Failure TextLayout :=
  let template := if template == "" then "%(message)s" else template
  if hasField template then .ok ⟨template, datePattern⟩
  else .error (.fault .value ("Invalid format '" ++ template ++ "' for '%' style"))

/-- The time of a record by a pattern, or with milliseconds if there is none. -/
def timeText (datePattern : String) (zone : Zone) (created : Binary64) : Except Failure String :=
  match created.floor? with
  | none => .error Timestamp.secondsOutOfRange
  | some seconds =>
    if seconds < -Nat.pow 2 63 ∨ Nat.pow 2 63 ≤ seconds then .error Timestamp.secondsOutOfRange
    else
      let t := CivilTime.ofSeconds zone seconds
      if datePattern == "" then
        let millis := ((created.fraction * .ofInt 1000).truncate?.getD 0).natAbs
        .ok (t.byPattern standard.datePattern.toList ++ "," ++ zeroPadded 3 (decimalDigits millis))
      else .ok (t.byPattern datePattern.toList)

def usesTime (template : String) : Bool :=
  occurs ("%(asctime)".toList.isPrefixOf ·) template.toList

def fields (layout : TextLayout) (r : Record) : Except Failure Json := do
  let message ← r.message
  let time : List (Text × Json) ← if usesTime layout.template then
      (timeText layout.datePattern r.zone r.created).map fun time => [("asctime", .text time)]
    else .ok []
  let data : List (Text × Json) := match r.data with
    | some entries => [("data", .object entries)]
    | none => []
  let usual : List (Text × Json) :=
    [("name", .text r.name), ("msg", .text r.template), ("levelname", .text (severityName r.severity)),
      ("levelno", .int r.severity), ("pathname", .text r.path), ("filename", .text (Path.baseName r.path)),
      ("module", .text r.module), ("exc_info", .null), ("exc_text", .null), ("stack_info", .null),
      ("lineno", .int r.line), ("funcName", .null), ("created", .float r.created),
      ("threadName", .text "MainThread"), ("processName", .text "MainProcess"), ("message", .text message)]
  return .object (usual ++ time ++ data)

/-- A record by a layout, with the traceback of its failure on lines of its own. -/
def write (layout : TextLayout) (r : Record) : Except Failure Text := do
  let text ← Template.fill layout.template (.named (← fields layout r))
  match r.raised with
  | none => return text
  | some raised =>
    if raised.traceback = "" then return text
    let lineEnd := if text.points.getLast? == some (.char '\n') then "" else "\n"
    return text ++ lineEnd ++ raised.traceback

end TextLayout

def Layout.write (layout : Layout) (r : Record) : Except Failure Text :=
  match layout with
  | .text layout => layout.write r
  | .json => (r.jsonText none).map .plain

end Log

end QuestionBoard
