import QuestionBoard.Text.Basic

/-!
Texts of options, in which a percent sign is special: two stand for one, and one before a name in
parentheses and an `s` stands for the option of that name. Any other is malformed.
-/

namespace QuestionBoard

namespace OptionText

/-- A text as an option is written to stand for it. -/
def escaped : List CodePoint → List CodePoint
  | .char '%' :: rest => .char '%' :: .char '%' :: escaped rest
  | p :: rest => p :: escaped rest
  | [] => []

/-- Takes a name, which is not empty, a closing parenthesis and an `s` off the front. -/
def name? (ps : List CodePoint) : Option (List CodePoint × List CodePoint) :=
  let name := ps.takeWhile (· != .char ')')
  match name, ps.drop name.length with
  | _ :: _, .char ')' :: .char 's' :: rest => some (name, rest)
  | _, _ => none

theorem length_name?_lt {ps name rest : List CodePoint} (h : name? ps = some (name, rest)) :
    rest.length < ps.length := by
  simp only [name?] at h
  split at h
  · rename_i hrest
    simp only [Option.some.injEq, Prod.mk.injEq] at h
    have := congrArg List.length hrest
    simp only [List.length_drop, List.length_cons] at this
    rw [← h.2]
    omega
  · cases h

/-- The text that an option stands for, with the values of other options at hand. -/
def read (lookup : Text → Option (List CodePoint)) : List CodePoint → Option (List CodePoint)
  | .char '%' :: .char '%' :: rest => (read lookup rest).map (.char '%' :: ·)
  | .char '%' :: .char '(' :: rest =>
    match h : name? rest with
    | some (name, rest') =>
      have := length_name?_lt h
      do
        let value ← lookup (.ofPoints name)
        return value ++ (← read lookup rest')
    | none => none
  | .char '%' :: _ => none
  | p :: rest => (read lookup rest).map (p :: ·)
  | [] => some []
  termination_by ps => ps.length

end OptionText

end QuestionBoard
