import QuestionBoard.Failure.Basic

/-!
Writing JSON text, in ASCII only. Without an indent all stands on one line, with a blank after each
comma and colon; with one, every item and entry has a line of its own. What goes over the wire has no
blanks, and characters beyond ASCII stand in it for themselves.
-/

namespace QuestionBoard

namespace Json

def unitEscape (unit : Nat) : String := "\\u" ++ hexadecimal 4 unit

/-- A character inside a string: beyond U+FFFF it is written as a pair of code units. -/
def escapedChar (c : Char) : String :=
  if c == '"' then "\\\""
  else if c == '\\' then "\\\\"
  else if c == '\n' then "\\n"
  else if c == '\r' then "\\r"
  else if c == '\t' then "\\t"
  else if c == '\x08' then "\\b"
  else if c == '\x0c' then "\\f"
  else if 0x20 ≤ c.toNat ∧ c.toNat < 0x7f then c.toString
  else if c.toNat < 0x10000 then unitEscape c.toNat
  else
    let n := c.toNat - 0x10000
    unitEscape (0xD800 + n / 0x400) ++ unitEscape (0xDC00 + n % 0x400)

def escapedPoint : CodePoint → String
  | .char c => escapedChar c
  | .half h => unitEscape h.code

def stringText (t : Text) : String := "\"" ++ String.join (t.points.map escapedPoint) ++ "\""

/-- A number as JSON text, infinities and what is no number as words. -/
def floatText : Binary64 → String
  | .notANumber => "NaN"
  | .infinite negative => if negative then "-Infinity" else "Infinity"
  | x => x.display

/-- What stands between the brackets of an array or object at a depth. -/
structure Layout where
  /-- The blanks of one level, or none for a single line. -/
  indent : Option Nat

def Layout.lineStart (layout : Layout) (depth : Nat) : String :=
  match layout.indent with
  | none => ""
  | some width => "\n" ++ String.ofList (List.replicate (width * depth) ' ')

/-- What stands between two items at a depth. -/
def Layout.separator (layout : Layout) (depth : Nat) : String :=
  match layout.indent with
  | none => ", "
  | some _ => "," ++ layout.lineStart depth

/-- Brackets around parts, which stand one level deeper. -/
def Layout.enclose (layout : Layout) (depth : Nat) (opening closing : String) (parts : List String) :
    String :=
  if parts.isEmpty then opening ++ closing
  else opening ++ layout.lineStart (depth + 1) ++
    (layout.separator (depth + 1)).intercalate parts ++ layout.lineStart depth ++ closing

mutual

def writeAt (layout : Layout) (depth : Nat) : Json → String
  | .null => "null"
  | .bool b => if b then "true" else "false"
  | .int n => decimalText n
  | .float x => floatText x
  | .text s => stringText s
  | .array items => layout.enclose depth "[" "]" (writeItems layout (depth + 1) items)
  | .object entries => layout.enclose depth "\x7b" "\x7d" (writeEntries layout (depth + 1) entries)

def writeItems (layout : Layout) (depth : Nat) : List Json → List String
  | [] => []
  | item :: rest => writeAt layout depth item :: writeItems layout depth rest

def writeEntries (layout : Layout) (depth : Nat) : List (Text × Json) → List String
  | [] => []
  | (key, value) :: rest =>
    (stringText key ++ ": " ++ writeAt layout depth value) :: writeEntries layout depth rest

end

/-- The text of data, on one line or with an indent. -/
def write (indent : Option Nat) (data : Json) : String := writeAt ⟨indent⟩ 0 data

/-! ### Over the wire -/

/-- A character inside a string, as it is but for quotes, backslashes and what is no blank. -/
def openChar (c : Char) : String :=
  if c == '"' || c == '\\' || c.toNat < 0x20 then escapedChar c else c.toString

/-- Characters inside a string. -/
def openChars (s : String) : String := String.join (s.toList.map openChar)

/-- A text inside a string; halves stay. -/
def openBody : Text → Text
  | .plain s => openChars s
  | .broken before h rest => .broken (openChars before) h (openBody rest)

mutual

/-- Data without blanks. -/
def openText : Json → Text
  | .text t => "\"" ++ openBody t ++ "\""
  | .array items => "[" ++ .joined "," (openItems items) ++ "]"
  | .object entries => "\x7b" ++ .joined "," (openEntries entries) ++ "\x7d"
  | data => data.write none

def openItems : List Json → List Text
  | [] => []
  | item :: rest => openText item :: openItems rest

def openEntries : List (Text × Json) → List Text
  | [] => []
  | (key, value) :: rest => ("\"" ++ openBody key ++ "\":" ++ openText value) :: openEntries rest

end

mutual

/-- Whether a number in the data is infinite or none. -/
def hasUnbounded : Json → Bool
  | .float .notANumber | .float (.infinite _) => true
  | .array items => anyUnboundedItem items
  | .object entries => anyUnboundedEntry entries
  | _ => false

/-- Whether an item has such a number. -/
def anyUnboundedItem : List Json → Bool
  | [] => false
  | item :: rest => item.hasUnbounded || anyUnboundedItem rest

/-- Whether the value of an entry has such a number. -/
def anyUnboundedEntry : List (Text × Json) → Bool
  | [] => false
  | (_, value) :: rest => value.hasUnbounded || anyUnboundedEntry rest

end

/-- What goes over the wire: characters, for numbers that JSON has. -/
def wire (data : Json) : Except Failure String :=
  if data.hasUnbounded then .error .unboundedNumber else data.openText.written

end Json

end QuestionBoard
