import QuestionBoard.Failure.Basic

/-!
Checked values: a value, or all the violations that were found on the way to it. Values that are
checked side by side report the violations of all of them, in order.
-/

namespace QuestionBoard

/-- A value, or what stands in its way. -/
inductive Checked (α : Type)
  | valid (value : α)
  | broken (violations : List Violation)

namespace Checked

variable {α β : Type}

def violations : Checked α → List Violation
  | .valid _ => []
  | .broken vs => vs

instance : Functor Checked where
  map f
    | .valid value => .valid (f value)
    | .broken vs => .broken vs

instance : Applicative Checked where
  pure := .valid
  seq f x :=
    match f, x () with
    | .valid f, .valid value => .valid (f value)
    | f, x => .broken (f.violations ++ x.violations)

def breaks (rule : FieldRule) : Checked α := .broken [⟨rule, []⟩]

/-- A value that is checked further. -/
def andThen (x : Checked α) (check : α → Checked β) : Checked β :=
  match x with
  | .valid value => check value
  | .broken vs => .broken vs

/-- The value seen from one step further out. -/
def within (step : Place) : Checked α → Checked α
  | .valid value => .valid value
  | .broken vs => .broken (vs.map (·.within step))

def toExcept (failure : List Violation → Failure) : Checked α → Except Failure α
  | .valid value => .ok value
  | .broken vs => .error (failure vs)

end Checked

end QuestionBoard
