import QuestionBoard.Failure.Basic
import QuestionBoard.Json.Reader

/-!
Whole numbers as people write them: blanks around, a sign, decimal digits of any script, and single
underscores between the digits.
-/

namespace QuestionBoard

namespace WrittenNumber

/-- The digits of a text in which single underscores may stand between digits. -/
def digits? (cs : List Char) : Option (List Nat) :=
  let parts := cs.splitOn '_'
  if parts.any List.isEmpty then none else parts.flatten.mapM decimalDigit?

def read (t : Text) : Except Failure Int :=
  let refusal := Failure.fault .value ("invalid literal for int() with base 10: " ++ quoted t)
  match t with
  | .broken _ _ _ => .error refusal
  | .plain s =>
    let (negative, cs) := signed (trimmed isBlank s.toList)
    match digits? cs with
    | none => .error refusal
    | some digits =>
      if maxIntegerDigits < digits.length then .error (.integerTooLong digits.length)
      else .ok (if negative then -(numberOf digits : Int) else numberOf digits)

end WrittenNumber

end QuestionBoard
