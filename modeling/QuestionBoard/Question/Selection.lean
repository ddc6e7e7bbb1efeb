import QuestionBoard.Question.Id

/-!
Which questions are listed. A `Window` is a half-open interval of positions in the order of the
store; a window that ends where it starts, or before, selects nothing and is no error. A `Selection`
carries the wish for an order along, which no store follows.
-/

namespace QuestionBoard

/-- The positions from `start` on that are before `stop`. -/
structure Window where
  start : Nat := 0
  stop : Nat := 10
  deriving DecidableEq, Repr

namespace Window

/-- The number of positions. -/
def limit (w : Window) : Nat := w.stop - w.start

/-- Whether there is no position. -/
def isEmpty (w : Window) : Bool := w.stop ≤ w.start

def ofBounds (start stop : Int) : Except Failure Window :=
  if start < 0 ∨ stop < 0 then
    .error (.parse "pagination bounds must not be negative" (.array [.int start, .int stop]))
  else .ok { start := start.toNat, stop := stop.toNat }

/-- Reads one bound: digits, perhaps after a plus sign. -/
def readBound (name : String) (raw : Json) : Except Failure Nat :=
  let refusal := Failure.parse (name ++ " must be an unsigned integer, got " ++ raw.quotedDisplay) raw
  match raw with
  | .text t =>
    let digits := match t.chars with
      | '+' :: rest => rest
      | cs => cs
    match readDigits? digits with
    | none => .error refusal
    | some read => read
  | _ => .error refusal

/-- The value of a parameter, unless it is missing or null. -/
def present (name : String) (parameters : Json) : Option Json :=
  match parameters.get? name with
  | some .null => none
  | found => found

/-- Reads a window from parameters; a bound that is not given has its default. -/
def ofParameters (parameters : Json) : Except Failure Window := do
  let bound := fun (name : String) (default : Nat) =>
    match present name parameters with
    | none => pure default
    | some raw => readBound name raw
  let usual : Window := {}
  return { start := ← bound "start" usual.start, stop := ← bound "end" usual.stop }

/-- The items of a list at the positions of the window. -/
def of {α : Type} (w : Window) (items : List α) : List α := (items.drop w.start).take w.limit

end Window

/-- Which questions are listed, and the order that is wished for. -/
structure Selection where
  window : Window := {}
  sort : Json := .null

namespace Selection

/-- Reads the wish for an order: names between commas, empty ones left out. -/
def sortOfData (raw : Json) : Except Failure Json :=
  if !raw.isTruthy then .ok .null
  else match raw with
    | .text t => .ok (.array (((t.splitOn ',').filter fun name : Text => name ≠ "").map .text))
    | _ => .error (.fault .attribute ("'" ++ raw.kindName ++ "' object has no attribute 'split'"))

def ofParameters (parameters : Json) : Except Failure Selection := do
  let window ← Window.ofParameters parameters
  let sort ← sortOfData ((parameters.get? "sort").getD .null)
  return { window, sort }

end Selection

end QuestionBoard
