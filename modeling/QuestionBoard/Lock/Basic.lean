import QuestionBoard.Collection.OrderedMap
import QuestionBoard.Failure.Basic

/-!
A lock that many readers or one writer hold, and the tasks that use it. The lock's counts are read
and changed under a guard, which one task at a time owns. A task that may not have the lock parks:
it gives the guard back and sleeps until a change of the lock wakes every parked task, or until it
is cancelled. A waiting writer holds back readers that come after it.

Tasks run one at a time, and each runs until it sleeps or ends.
-/

namespace QuestionBoard

namespace Lock

/-- How the lock is held. -/
inductive Mode
  | shared
  | exclusive
  deriving DecidableEq, Repr

/-- How a task leaves its block. -/
inductive BlockEnd
  | normally
  | raising (kind : FailureKind)
  | cancelled
  deriving DecidableEq, Repr

/-- What a task does while it owns the guard. -/
inductive Stage
  /-- A writer counts itself among those that wait. -/
  | announce
  /-- Looks whether the lock may be taken. -/
  | test
  | take
  /-- Gives up waiting, being cancelled. -/
  | abandon
  /-- Gives the lock back, a block having ended so. -/
  | giveBack (ended : BlockEnd)
  deriving DecidableEq, Repr

/-- Where a task stands. A task sleeps where it is parked, queued or inside its block. -/
inductive Point
  /-- It has not run yet. -/
  | fresh
  /-- It is about to take the guard. -/
  | wantsGuard (stage : Stage)
  /-- It sleeps until the guard is given to it. -/
  | queued (stage : Stage)
  | owningGuard (stage : Stage)
  /-- It sleeps until the lock changes; a roused task has been woken and has not run since. -/
  | parked (roused : Bool)
  /-- It has just taken the lock. -/
  | holding
  /-- It sleeps inside its block; a roused task has been woken and has not run since. -/
  | inside (roused : Bool)
  | done
  deriving DecidableEq, Repr

structure Task where
  mode : Mode
  /-- Whether it enters a block and gives the lock back after it, or ends once it has the lock. -/
  hasBlock : Bool
  point : Point := .fresh
  /-- Whether a cancellation is due. -/
  cancelled : Bool := false
  /-- How the block is to end, once that is known. -/
  ending : Option BlockEnd := none
  deriving Repr

inductive Event
  | acquired (task : String)
  | entered (task : String)
  | left (task : String)
  | raised (task : String) (kind : FailureKind)
  | cancelled (task : String)
  deriving DecidableEq, Repr

end Lock

structure LockSystem where
  /-- How many hold the lock in shared mode; giving back what is not held makes it negative. -/
  readers : Int := 0
  /-- Whether the lock is held in exclusive mode. -/
  writer : Bool := false
  waitingWriters : Int := 0
  /-- The owner of the guard. -/
  guard : Option String := none
  /-- The tasks that sleep until the guard is theirs, first come first. -/
  guardQueue : List String := []
  /-- The parked tasks, first come first. -/
  parked : List String := []
  tasks : OrderedMap String Lock.Task := .empty
  /-- The tasks that are to run, in turn. -/
  ready : List String := []
  events : List Lock.Event := []

namespace LockSystem

def admits (mode : Lock.Mode) (s : LockSystem) : Bool :=
  match mode with
  | .shared => !s.writer && s.waitingWriters == 0
  | .exclusive => !s.writer && s.readers == 0

/-- Where a task stands, if it is there. -/
def pointOf (name : String) (s : LockSystem) : Option Lock.Point :=
  (s.tasks.get? name).map Lock.Task.point

def changeTask (name : String) (change : Lock.Task → Lock.Task) (s : LockSystem) : LockSystem :=
  match s.tasks.get? name with
  | some task => { s with tasks := s.tasks.insert name (change task) }
  | none => s

/-- Moves a task to a point. -/
def moveTo (name : String) (point : Lock.Point) (s : LockSystem) : LockSystem :=
  s.changeTask name fun task => { task with point }

/-- Lets a task run in its turn. -/
def schedule (name : String) (s : LockSystem) : LockSystem := { s with ready := s.ready ++ [name] }

def report (event : Lock.Event) (s : LockSystem) : LockSystem :=
  { s with events := s.events ++ [event] }

/-- Rouses a task that sleeps, if nothing has roused it yet. -/
def rouse (name : String) (s : LockSystem) : LockSystem :=
  match s.pointOf name with
  | some (.parked false) => (s.moveTo name (.parked true)).schedule name
  | some (.inside false) => (s.moveTo name (.inside true)).schedule name
  | _ => s

/-- Rouses every parked task, in the order in which they parked. -/
def rouseParked (s : LockSystem) : LockSystem := s.parked.foldl (fun s name => s.rouse name) s

/-- Gives the guard up; the first task that is queued for it runs in its turn. -/
def freeGuard (s : LockSystem) : LockSystem :=
  match s.guardQueue with
  | [] => { s with guard := none }
  | next :: rest => { s with guard := none, guardQueue := rest }.schedule next

/-- Gives the lock back in a mode, rousing the parked tasks when it may be free. -/
def giveBack (mode : Lock.Mode) (s : LockSystem) : LockSystem :=
  match mode with
  | .shared =>
    let s := { s with readers := s.readers - 1 }
    if s.readers = 0 then s.rouseParked else s
  | .exclusive => { s with writer := false }.rouseParked

end LockSystem

end QuestionBoard
