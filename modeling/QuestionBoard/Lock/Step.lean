import QuestionBoard.Lock.Basic

/-!
The steps of a task. `LockSystem.step` moves a task from one point to the next and says whether it
goes on at once; `LockSystem.resume` lets it run until it sleeps or ends; `LockSystem.settle` lets
all tasks run in turn until none is to run.
-/

namespace QuestionBoard

namespace LockSystem

open Lock

/-- How a task's block ends when the task is woken inside it. -/
def blockEnd (task : Task) : Option BlockEnd :=
  if task.cancelled then some .cancelled else task.ending

/-- What a task reports when it has given the lock back. -/
def endEvent (name : String) : BlockEnd → Event
  | .normally => .left name
  | .raising kind => .raised name kind
  | .cancelled => .cancelled name

/-- What a task that owns the guard does. -/
def stageStep (name : String) (task : Task) (stage : Stage) (s : LockSystem) : LockSystem × Bool :=
  match stage with
  | .announce =>
    let s := match task.mode with
      | .shared => s
      | .exclusive => { s with waitingWriters := s.waitingWriters + 1 }
    (s.moveTo name (.owningGuard .test), true)
  | .test =>
    if s.admits task.mode then (s.moveTo name (.owningGuard .take), true)
    else ({ s with parked := s.parked ++ [name] }.freeGuard.moveTo name (.parked false), false)
  | .take =>
    let s := match task.mode with
      | .shared => { s with readers := s.readers + 1 }
      | .exclusive => { s with waitingWriters := s.waitingWriters - 1, writer := true }
    (s.freeGuard.moveTo name .holding, true)
  | .abandon =>
    let s := match task.mode with
      | .shared => s
      | .exclusive => { s with waitingWriters := s.waitingWriters - 1 }.rouseParked
    ((s.freeGuard.moveTo name .done).report (.cancelled name), false)
  | .giveBack ended =>
    (((s.giveBack task.mode).freeGuard.moveTo name .done).report (endEvent name ended), false)

/-- The next step of a task, and whether it goes on at once. -/
def step (name : String) (s : LockSystem) : LockSystem × Bool :=
  match s.tasks.get? name with
  | none => (s, false)
  | some task => match task.point with
    | .fresh =>
      if task.cancelled then (s.moveTo name .done, false)
      else (s.moveTo name (.wantsGuard .announce), true)
    | .wantsGuard stage =>
      if s.guard.isNone then ({ s with guard := some name }.moveTo name (.owningGuard stage), true)
      else ({ s with guardQueue := s.guardQueue ++ [name] }.moveTo name (.queued stage), false)
    | .queued stage => (s.moveTo name (.wantsGuard stage), true)
    | .owningGuard stage => s.stageStep name task stage
    | .parked _ =>
      let s := { s with parked := s.parked.erase name }
      (s.moveTo name (.wantsGuard (if task.cancelled then .abandon else .test)), true)
    | .holding =>
      if !task.hasBlock then ((s.moveTo name .done).report (.acquired name), false)
      else
        let s := s.report (.entered name)
        match task.ending with
        | some ended => (s.moveTo name (.wantsGuard (.giveBack ended)), true)
        | none => (s.moveTo name (.inside false), false)
    | .inside _ =>
      match blockEnd task with
      | some ended => (s.moveTo name (.wantsGuard (.giveBack ended)), true)
      | none => (s.moveTo name (.inside false), false)
    | .done => (s, false)

/-- Lets a task run for at most `fuel` steps, or until it sleeps or ends. -/
def runTask (name : String) : Nat → LockSystem → LockSystem
  | 0, s => s
  | fuel + 1, s =>
    let (s, goesOn) := s.step name
    if goesOn then runTask name fuel s else s

/-- The most steps that a task takes between two sleeps: from its start through a whole block. -/
def stepsPerTurn : Nat := 9

/-- Lets a task run until it sleeps or ends. -/
def resume (name : String) (s : LockSystem) : LockSystem := s.runTask name stepsPerTurn

/-- Lets the tasks run in turn, `fuel` bounding the turns. -/
def settleWithin : Nat → LockSystem → LockSystem
  | 0, s => s
  | fuel + 1, s => match s.ready with
    | [] => s
    | name :: rest => settleWithin fuel ({ s with ready := rest }.resume name)

/-- Lets the tasks run in turn until none is to run. Every task gives the lock back at most once, so
each is roused at most once for every task. -/
def settle (s : LockSystem) : LockSystem :=
  s.settleWithin (4 * (s.tasks.size + s.ready.length + 1) * (s.tasks.size + s.ready.length + 1))

end LockSystem

end QuestionBoard
