import QuestionBoard.Text.Basic
import QuestionBoard.Text.Class
import QuestionBoard.Text.Utf8

/-!
Percent escapes. A percent sign and two hexadecimal digits stand for a byte; any other percent sign
stands for itself. The bytes are read as UTF-8, and pieces that are not become replacement characters.
-/

namespace QuestionBoard

namespace Percent

/-- The bytes that a text stands for. -/
def bytes : List Char → List UInt8
  | '%' :: a :: b :: rest =>
    match hexDigit? a, hexDigit? b with
    | some high, some low => UInt8.ofNat (16 * high + low) :: bytes rest
    | _, _ => encodeChar '%' ++ bytes (a :: b :: rest)
  | c :: rest => encodeChar c ++ bytes rest
  | [] => []

/-- The text without its escapes. -/
def decoded (s : String) : String := decodeUtf8Lossy (bytes s.toList)

/-- The text without its escapes, none of which reaches across a half. -/
def decodedText : Text → Text
  | .plain s => decoded s
  | .broken before h rest => .broken (decoded before) h (decodedText rest)

end Percent

end QuestionBoard
