import QuestionBoard.Failure.Kind
import QuestionBoard.Json.Basic

/-!
Failures as causes. A failure holds what its readers may ask for; `Failure.message` is the one place
where failures are put into words. Fields that break a rule are `Violation`s, each with its place.
-/

namespace QuestionBoard

/-- One step of the way to a field: a name, or a position in a list. -/
inductive Place
  | name (key : String)
  | index (position : Nat)
  deriving DecidableEq, Repr

/-- The rules that fields are held to. -/
inductive FieldRule
  | textType
  | textUnicode
  | textTooLong (limit : Nat)
  | intType
  | intParsing
  | intParsingSize
  | intFromFloat
  | finite
  | floatType
  | floatParsing
  | boolType
  | boolParsing
  | listType
  | missing
  | objectType
  | sectionType (kind : String)
  | literal (expected : String)
  | tagMissing (discriminator : String)
  | tagUnknown (tag discriminator : String) (expected : List String)
  | atLeast (bound : Int)
  | above (bound : Int)
  | value (reason : String)
  | invalidJson
  deriving DecidableEq, Repr

namespace FieldRule

def name : FieldRule → String
  | .textType => "string_type"
  | .textUnicode => "string_unicode"
  | .textTooLong _ => "string_too_long"
  | .intType => "int_type"
  | .intParsing => "int_parsing"
  | .intParsingSize => "int_parsing_size"
  | .intFromFloat => "int_from_float"
  | .finite => "finite_number"
  | .floatType => "float_type"
  | .floatParsing => "float_parsing"
  | .boolType => "bool_type"
  | .boolParsing => "bool_parsing"
  | .listType => "list_type"
  | .missing => "missing"
  | .objectType => "model_attributes_type"
  | .sectionType _ => "model_type"
  | .literal _ => "literal_error"
  | .tagMissing _ => "union_tag_not_found"
  | .tagUnknown _ _ _ => "union_tag_invalid"
  | .atLeast _ => "greater_than_equal"
  | .above _ => "greater_than"
  | .value _ => "value_error"
  | .invalidJson => "json_invalid"

/-- What is said to whoever broke the rule. -/
def message : FieldRule → String
  | .textType => "Input should be a valid string"
  | .textUnicode => "Input should be a valid string, unable to parse raw data as a unicode string"
  | .textTooLong limit => "String should have at most " ++ decimalDigits limit ++ " characters"
  | .intType => "Input should be a valid integer"
  | .intParsing => "Input should be a valid integer, unable to parse string as an integer"
  | .intParsingSize => "Unable to parse input string as an integer, exceeded maximum size"
  | .intFromFloat => "Input should be a valid integer, got a number with a fractional part"
  | .finite => "Input should be a finite number"
  | .floatType => "Input should be a valid number"
  | .floatParsing => "Input should be a valid number, unable to parse string as a number"
  | .boolType => "Input should be a valid boolean"
  | .boolParsing => "Input should be a valid boolean, unable to interpret input"
  | .listType => "Input should be a valid list"
  | .missing => "Field required"
  | .objectType => "Input should be a valid dictionary or object to extract fields from"
  | .sectionType kind => "Input should be a valid dictionary or instance of " ++ kind
  | .literal expected => "Input should be '" ++ expected ++ "'"
  | .tagMissing discriminator => "Unable to extract tag using discriminator '" ++ discriminator ++ "'"
  | .tagUnknown tag discriminator expected =>
    "Input tag '" ++ tag ++ "' found using '" ++ discriminator ++
      "' does not match any of the expected tags: " ++
      ", ".intercalate (expected.map fun name => "'" ++ name ++ "'")
  | .atLeast bound => "Input should be greater than or equal to " ++ decimalText bound
  | .above bound => "Input should be greater than " ++ decimalText bound
  | .value reason => "Value error, " ++ reason
  | .invalidJson => "JSON decode error"

end FieldRule

structure Violation where
  rule : FieldRule
  place : List Place
  deriving DecidableEq, Repr

/-- The violation seen from one step further out. -/
def Violation.within (step : Place) (v : Violation) : Violation := { v with place := step :: v.place }

inductive Failure
  /-- A failure with no more than a message. -/
  | base (message : Text) (cause : Option FailureKind)
  | core (message : Text) (cause : Option FailureKind)
  /-- A malformed identifier or page; `value` is what could not be read. -/
  | parse (reason : Text) (value : Json)
  /-- An absent record or cache key. -/
  | notFound (resource id : Text)
  | missingParameters (reason : Text) (parameters : Json)
  /-- A fault of a backend, with the kind of what it raised. -/
  | internal (reason : Text) (cause : Option FailureKind)
  | configuration (reason : Text) (key : Option Text) (violations : Option (List Violation))
  /-- Fields that break their rules, outside a configuration. -/
  | validation (violations : List Violation)
  /-- What another system raised. -/
  | fault (kind : FaultKind) (message : Text)

namespace Failure

def kind : Failure → FailureKind
  | .base _ _ => .base
  | .core _ _ => .core
  | .parse _ _ => .parse
  | .notFound _ _ => .notFound
  | .missingParameters _ _ => .missingParameters
  | .internal _ _ => .internal
  | .configuration _ _ _ => .configuration
  | .validation _ => .validation
  | .fault kind _ => .fault kind

def message : Failure → Text
  | .base message _ => message
  | .core message _ => message
  | .parse reason _ => "Parse error: " ++ reason
  | .notFound resource id => resource ++ " with ID " ++ id ++ " not found"
  | .missingParameters reason _ => "Missing parameters: " ++ reason
  | .internal reason _ => "Internal error: " ++ reason
  | .configuration reason _ _ => "Configuration error: " ++ reason
  | .validation violations => decimalDigits violations.length ++ " validation errors"
  | .fault .key message => quoted message
  | .fault _ message => message

/-- The kind of failure that was the cause of this one. -/
def cause? : Failure → Option FailureKind
  | .base _ cause => cause
  | .core _ cause => cause
  | .internal _ cause => cause
  | _ => none

def isFault (inClass : FaultKind → Bool) : Failure → Bool
  | .fault kind _ => inClass kind
  | _ => false

/-- The failure of the board's own that positional arguments describe: the message, what it is about,
and apart from them its cause. -/
def ofArguments? (kind : FailureKind) (arguments : List Json) (cause : Option FailureKind) :
    Option Failure :=
  let message := (arguments.head?.getD .null).display
  let subject := (arguments.drop 1).head?.getD .null
  match kind with
  | .base => some (.base message cause)
  | .core => some (.core message cause)
  | .parse => some (.parse message subject)
  | .notFound => some (.notFound message subject.display)
  | .missingParameters =>
    some (.missingParameters message (if subject.isTruthy then subject else .array []))
  | .internal => some (.internal message cause)
  | .configuration =>
    match subject with
    | .text key => some (.configuration message (some key) none)
    | _ => some (.configuration message none none)
  | .validation | .fault _ => none

/-- A number with more digits than are read. -/
def integerTooLong (digits : Nat) : Failure :=
  .fault .value ("Exceeds the limit (4300 digits) for integer string conversion: value has " ++
    decimalDigits digits ++ " digits; use sys.set_int_max_str_digits() to increase the limit")

/-- A number with more digits than are written. -/
def integerTooLongToWrite : Failure :=
  .fault .value ("Exceeds the limit (4300 digits) for integer string conversion; " ++
    "use sys.set_int_max_str_digits() to increase the limit")

def unboundedNumber : Failure := .fault .value "Out of range float values are not JSON compliant"

/-- Halves that stand in a text from a position on, where only characters can be written. -/
def unencodable (position : Nat) (first : Half) (count : Nat) : Failure :=
  .fault .unicodeEncode ("'utf-8' codec can't encode character" ++
    (if count = 1 then " " ++ quoted (.broken "" first "") ++ " in position " ++ decimalDigits position
      else "s in position " ++ decimalDigits position ++ "-" ++ decimalDigits (position + count - 1)) ++
    ": surrogates not allowed")

end Failure

/-- The characters of a text that is written in UTF-8, in which a half has no place. -/
def Text.written : Text → Except Failure String
  | plain s => .ok s
  | broken before h rest => .error (.unencodable before.length h (rest.leadingHalves + 1))

end QuestionBoard
