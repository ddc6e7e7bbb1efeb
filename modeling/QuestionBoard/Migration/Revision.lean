import QuestionBoard.Failure.Basic
import QuestionBoard.Number.Written
import QuestionBoard.Question.Table

/-!
Revisions of the schema and the way between them. There is the empty base and one revision after it,
which adds the table of questions. A target is named by a word, by the start of a revision's number,
or by a count of steps from where the schema is.
-/

namespace QuestionBoard

inductive Revision
  | base
  | questions
  deriving DecidableEq, Repr

/-- A way to go. -/
inductive Migration
  | upgrade (target : String)
  | downgrade (target : String)

namespace Revision

def newest : String := "0001"

def unknown (target : String) : Failure :=
  .fault .migration ("Can't locate revision identified by " ++ "'" ++ target ++ "'")

def noSteps (target : String) (count : Nat) : Failure :=
  .fault .migration ("Relative revision " ++ target ++ " didn't produce " ++ decimalDigits count ++
    " migrations")

/-- The failure for a range where one revision is asked for. -/
def noRange : Failure := .fault .migration "Range revision not allowed"

def named (target : String) : Except Failure Revision :=
  if target == "base" then .ok .base
  else if ["head", "heads"].contains target then .ok .questions
  else if target != "" && newest.startsWith target then .ok .questions
  else .error (unknown target)

/-- The steps that a target counts: a sign and digits. -/
def steps? (target : String) : Option (Bool × Nat) :=
  match target.toList with
  | c :: d :: rest =>
    if c == '+' || c == '-' then
      ((d :: rest).mapM decimalDigit?).map fun digits => (c == '-', numberOf digits)
    else none
  | _ => none

def upgraded (target : String) (current : Revision) : Except Failure Revision :=
  match steps? target, current with
  | some (false, 1), .base => .ok .questions
  | some (_, count), _ => .error (noSteps target count)
  | none, _ => (named target).map fun
    | .base => current
    | .questions => .questions

def downgraded (target : String) (current : Revision) : Except Failure Revision :=
  match steps? target, current with
  | some (true, 1), .questions => .ok .base
  | some (_, count), _ => .error (noSteps target count)
  | none, _ => (named target).bind fun
    | .base => .ok .base
    | .questions =>
      if current = .questions then .ok .questions
      else .error (.fault .migration ("Destination " ++ target ++
        " is not a valid downgrade target from current head(s)"))

end Revision

def Migration.destination (m : Migration) (current : Revision) : Except Failure Revision :=
  match m with
  | .upgrade target =>
    if target.contains ':' then .error Revision.noRange else Revision.upgraded target current
  | .downgrade target =>
    if target.contains ':' then .error Revision.noRange else Revision.downgraded target current

end QuestionBoard
