import QuestionBoard.Collection.OrderedMap
import QuestionBoard.File.Path
import QuestionBoard.Json.Writer
import QuestionBoard.Log.Line
import QuestionBoard.Text.Template
import QuestionBoard.Time.Calendar

/-!
Log records: an event with all that is known about it, and its form as one JSON object. The object
has the fields of every record, a failure if the record has one, and then the record's own data,
which replaces fields of the same name.

The file and the line that report the event, the zone of the clock and the traceback of a failure are given
with the record. Where they come from is not worked out.
-/

namespace QuestionBoard

namespace Log

def severityName (severity : Int) : String :=
  if severity = 0 then "NOTSET"
  else match [Level.debug, .info, .warning, .error, .critical].find? (·.severity == severity) with
    | some level => level.name
    | none => "Level " ++ decimalText severity

/-- The severity with a name; some have two names. -/
def severity? : String → Option Int
  | "DEBUG" => some 10
  | "INFO" => some 20
  | "WARNING" | "WARN" => some 30
  | "ERROR" => some 40
  | "CRITICAL" | "FATAL" => some 50
  | "NOTSET" => some 0
  | _ => none

/-- A failure that a record is about, and the text that shows where it was raised. -/
structure Raised where
  failure : Failure
  traceback : Text

/-- An event. -/
structure Record where
  /-- The name of the logger. -/
  name : Text
  severity : Int
  /-- The file of the code that reports the event. -/
  path : String
  line : Int
  /-- The message, with a place for each argument. -/
  template : Text
  arguments : List Json := []
  /-- Seconds since the start of 1970. -/
  created : Binary64
  zone : Zone := {}
  raised : Option Raised := none
  /-- More fields. -/
  data : Option (List (Text × Json)) := none

/-- A failure as an object. -/
def Raised.toJson (raised : Raised) : Json :=
  .object [("type", .text raised.failure.kind.name), ("message", .text raised.failure.message),
    ("traceback", .text raised.traceback)]

namespace Record

/-- The arguments of the message; a single object that is not empty names them. -/
def templateArguments (r : Record) : Template.Arguments :=
  match r.arguments with
  | [.object (first :: rest)] => .named (.object (first :: rest))
  | arguments => .listed arguments

/-- The message with its arguments, which are looked for only if there are any. -/
def message (r : Record) : Except Failure Text :=
  if r.arguments.isEmpty then .ok r.template else Template.fill r.template r.templateArguments

/-- The name of the file of the code, without what its last dot begins. -/
def module (r : Record) : String := Path.stem (Path.baseName r.path)

/-- The fields of the record's object before its own data. -/
def baseFields (r : Record) : Except Failure (List (Text × Json)) := do
  let timestamp ← Timestamp.text r.zone r.created
  let message ← r.message
  let about : List (Text × Json) := match r.raised with
    | some raised => [("exception", raised.toJson)]
    | none => []
  let fields : List (Text × Json) :=
    [("timestamp", .text timestamp), ("name", .text r.name), ("level", .text (severityName r.severity)),
      ("message", .text message), ("module", .text r.module), ("line", .int r.line)]
  return fields ++ about

def overlaid (fields others : List (Text × Json)) : List (Text × Json) :=
  others.foldl (fun fields (key, value) => insertEntry key value fields) fields

def toJson (r : Record) : Except Failure Json := do
  return .object (overlaid (← r.baseFields) (r.data.getD []))

/-- The record as JSON text, in which no whole number may have too many digits. -/
def jsonText (indent : Option Nat) (r : Record) : Except Failure String := do
  let data ← r.toJson
  if data.hasLongInteger then throw .integerTooLongToWrite
  return Json.write indent data

end Record

end Log

end QuestionBoard
