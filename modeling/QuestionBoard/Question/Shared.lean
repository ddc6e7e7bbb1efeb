import QuestionBoard.Lock.Command
import QuestionBoard.Question.Handles

/-!
Operations on one store by tasks that wait for one another. All handles of the store share a lock, and
an operation touches the questions while it holds it: alone if it may change them, with others if it
only reads. No operation sleeps while it holds the lock, so what it does there is one step; what is
left to do with what it has read is done once the lock is given back. Other tasks may hold the lock as
well, for as long as they like.
-/

namespace QuestionBoard

open Lock

namespace QuestionStore

/-- How an operation holds the lock; a list of no positions is given without it. -/
def Operation.mode? : Operation → Option Mode
  | .add _ | .update _ | .delete _ | .clear => some .exclusive
  | .find _ | .count => some .shared
  | .list selection => if selection.window.isEmpty then none else some .shared

/-- What an operation has when it leaves the lock. -/
inductive Taken
  | done (reply : Reply)
  | found (id : QuestionId) (q : Option Question)
  | values (window : Window) (qs : List Question)

/-- What an operation does while it holds the lock. -/
def Operation.block : Operation → Action QuestionStore Taken
  | .find id => do return .found id ((← get).questions.get? id)
  | .list { window, .. } => do
    if window.isEmpty then return .done (.questions [])
    return .values window (← get).questions.values
  | operation => do return .done (← operation.run)

/-- What an operation makes of it when it has left the lock. -/
def Taken.result : Taken → Except Failure Reply
  | .done reply => .ok reply
  | .found _ (some q) => .ok (.question q)
  | .found id none => .error (.noQuestion id)
  | .values window qs => .ok (.questions (window.of qs))

/-- How far a call of an operation has come. -/
inductive Progress
  | waiting
  /-- It has done what it does under the lock. -/
  | leaving (taken : Except Failure Taken)
  /-- It has ended, with no result if it was cancelled. -/
  | finished (result : Option (Except Failure Reply))

/-- The result of a call that ends where it has come to. -/
def Progress.result : Progress → Option (Except Failure Reply)
  | .waiting => none
  | .leaving taken => some (taken.bind Taken.result)
  | .finished result => result

structure Call where
  handle : String
  operation : Operation
  progress : Progress := .waiting

inductive Happening
  | called (call : String)
  | cancelled (call : String)
  | ended (call : String)
  deriving DecidableEq, Repr

end QuestionStore

open QuestionStore

/-- A store, the handles that share it, and the calls that were made through them. The lock has a task
for each call that takes it, of the same name. -/
structure SharedStore where
  handles : Handles
  journal : Journal
  lock : LockSystem := {}
  calls : OrderedMap String Call := .empty
  history : List Happening := []

namespace SharedStore

def start (handle : String) (store : QuestionStore) (journal : Journal) : SharedStore :=
  { handles := .single handle store, journal }

/-- A call does what it does under the lock, and its block ends. -/
def serve (name : String) (call : Call) (s : SharedStore) : SharedStore :=
  let o := (Handles.on call.handle call.operation.block).outcome s.handles s.journal
  let ended := match o.result with
    | .ok _ => BlockEnd.normally
    | .error failure => .raising failure.kind
  { s with
    handles := o.state
    journal := o.journal
    lock := s.lock.finish name ended
    calls := s.calls.insert name { call with progress := .leaving o.result } }

/-- A call ends, unless it has ended already. -/
def conclude (name : String) (call : Call) (s : SharedStore) : SharedStore :=
  match call.progress with
  | .finished _ => s
  | progress =>
    { s with
      calls := s.calls.insert name { call with progress := .finished progress.result }
      history := s.history ++ [.ended name] }

/-- A call that waits is served if it has the lock or does not take it. -/
def advance (name : String) (s : SharedStore) : SharedStore :=
  match s.calls.get? name with
  | some call => match call.progress, s.lock.pointOf name with
    | .waiting, none | .waiting, some .holding => s.serve name call
    | _, _ => s
  | none => s

/-- A call ends when its task has ended, or at once if it has none. -/
def close (name : String) (s : SharedStore) : SharedStore :=
  match s.calls.get? name with
  | some call => match s.lock.pointOf name with
    | none | some .done => s.conclude name call
    | _ => s
  | none => s

/-- The next step of a task, and whether it goes on at once. -/
def step (name : String) (s : SharedStore) : SharedStore × Bool :=
  let s := s.advance name
  let (lock, goesOn) := s.lock.step name
  ({ s with lock }.close name, goesOn)

/-- Cancels a task; a call that has none ends at once. -/
def cancel (name : String) (s : SharedStore) : SharedStore :=
  { s with
    lock := s.lock.cancel name
    history := s.history ++ [.cancelled name] : SharedStore }.close name

/-- A new task takes the lock in a mode, or runs in its turn without it. -/
def enlist (name : String) (mode? : Option Mode) (lock : LockSystem) : LockSystem :=
  match mode? with
  | some mode => lock.perform (.start name mode true)
  | none => lock.schedule name

/-- What may be done from outside the tasks. -/
inductive Command
  | call (name handle : String) (operation : Operation)
  | cancel (name : String)
  | clone (handle newHandle : String)
  /-- Another task takes the lock. -/
  | hold (name : String) (mode : Mode)
  /-- Another task's block is to end. -/
  | release (name : String) (ended : BlockEnd)

/-- Does what a command says; no task runs. -/
def perform (command : Command) (s : SharedStore) : SharedStore :=
  match command with
  | .call name handle operation =>
    { s with
      calls := s.calls.insert name { handle, operation }
      history := s.history ++ [.called name]
      lock := enlist name operation.mode? s.lock }
  | .cancel name => s.cancel name
  | .clone handle newHandle => { s with handles := s.handles.clone handle newHandle }
  | .hold name mode => { s with lock := s.lock.perform (.start name mode true) }
  | .release name ended => { s with lock := s.lock.perform (.finish name ended) }

/-- Lets a task run for at most `fuel` steps, or until it sleeps or ends. -/
def runTask (name : String) : Nat → SharedStore → SharedStore
  | 0, s => s
  | fuel + 1, s =>
    let (s, goesOn) := s.step name
    if goesOn then runTask name fuel s else s

/-- Takes a task off those that are to run. -/
def takeTurn (name : String) (s : SharedStore) : SharedStore :=
  { s with lock := { s.lock with ready := s.lock.ready.erase name } }

/-- Lets the tasks run in turn, `fuel` bounding the turns. -/
def settleWithin : Nat → SharedStore → SharedStore
  | 0, s => s
  | fuel + 1, s => match s.lock.ready with
    | [] => s
    | name :: _ => settleWithin fuel ((s.takeTurn name).runTask name LockSystem.stepsPerTurn)

/-- Does what some commands say, one after another, and then lets the tasks run until none is to
run. -/
def performAll (commands : List Command) (s : SharedStore) : SharedStore :=
  let s := commands.foldl (fun (s : SharedStore) command => s.perform command) s
  let bound := s.lock.tasks.size + s.lock.ready.length + 1
  s.settleWithin (4 * bound * bound)

end SharedStore

end QuestionBoard
