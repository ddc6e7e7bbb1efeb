import QuestionBoard.Text.Basic
import QuestionBoard.Text.Printable

/-!
Quoted text, the form in which messages show a piece of text. Single quotes stand around it unless
it holds one and no double quote; the chosen quote, the backslash and every character without a
printed form are escaped.
-/

namespace QuestionBoard

/-- A lower case hexadecimal number of a set width. -/
def hexadecimal (width n : Nat) : String :=
  let digits := Nat.toDigits 16 n
  String.ofList (List.replicate (width - digits.length) '0' ++ digits)

/-- The escape of a code point, as short as its size allows. -/
def escapedCode (n : Nat) : String :=
  if n < 0x100 then "\\x" ++ hexadecimal 2 n
  else if n < 0x10000 then "\\u" ++ hexadecimal 4 n
  else "\\U" ++ hexadecimal 8 n

/-- A character as it stands between two `quote`s. -/
def quotedChar (quote c : Char) : String :=
  if c == quote || c == '\\' then String.ofList ['\\', c]
  else if c == '\n' then "\\n"
  else if c == '\r' then "\\r"
  else if c == '\t' then "\\t"
  else if isPrintable c then c.toString
  else escapedCode c.toNat

/-- A point of a text as it stands between two `quote`s. -/
def quotedPoint (quote : Char) : CodePoint → String
  | .char c => quotedChar quote c
  | .half h => escapedCode h.code

def quoteFor (t : Text) : Char :=
  if t.points.contains (.char '\'') && !t.points.contains (.char '"') then '"' else '\''

def quoted (t : Text) : String :=
  let quote := quoteFor t
  quote.toString ++ String.join (t.points.map (quotedPoint quote)) ++ quote.toString

/-- The text with every character beyond ASCII escaped. -/
def asciiEscaped (s : String) : String :=
  String.join (s.toList.map fun c => if c.toNat < 0x80 then c.toString else escapedCode c.toNat)

end QuestionBoard
