import QuestionBoard.Lock.Step

/-!
What may be done to the lock from outside its tasks: starting a task, cancelling it, letting its
block end, and giving the lock back directly, whether it is held or not.
-/

namespace QuestionBoard

namespace Lock

inductive Command
  | start (task : String) (mode : Mode) (hasBlock : Bool)
  | finish (task : String) (ended : BlockEnd)
  | cancel (task : String)
  | giveBack (mode : Mode)
  deriving DecidableEq, Repr

end Lock

namespace LockSystem

open Lock

/-- Rouses a task that sleeps inside its block. -/
def rouseInside (name : String) (s : LockSystem) : LockSystem :=
  match s.pointOf name with
  | some (.inside false) => s.rouse name
  | _ => s

/-- Lets the block of a task end so, at once if the task is inside it and as soon as it is if not. -/
def finish (name : String) (ended : BlockEnd) (s : LockSystem) : LockSystem :=
  rouseInside name <| s.changeTask name fun task =>
    if task.ending.isNone then { task with ending := some ended } else task

/-- Cancels a task: one that sleeps is roused, one that is done is left alone. -/
def cancel (name : String) (s : LockSystem) : LockSystem :=
  match s.pointOf name with
  | none | some .done => s
  | some _ => (s.changeTask name fun task => { task with cancelled := true }).rouse name

/-- Does what a command says; no task runs. -/
def perform (command : Command) (s : LockSystem) : LockSystem :=
  match command with
  | .start name mode hasBlock =>
    { s with tasks := s.tasks.insert name { mode, hasBlock } }.schedule name
  | .finish name ended => s.finish name ended
  | .cancel name => s.cancel name
  | .giveBack mode => s.giveBack mode

/-- Does what some commands say, one after another, and then lets the tasks run until none is to
run. The events are those of these commands. -/
def performAll (commands : List Command) (s : LockSystem) : LockSystem :=
  (commands.foldl (fun (s : LockSystem) command => s.perform command) { s with events := [] }).settle

/-- The names of the tasks that are not done, sorted. -/
def pending (s : LockSystem) : List String :=
  let names := (s.tasks.entries.filter fun entry => entry.2.point ≠ .done).map Prod.fst
  names.mergeSort fun a b => decide (a ≤ b)

end LockSystem

end QuestionBoard
