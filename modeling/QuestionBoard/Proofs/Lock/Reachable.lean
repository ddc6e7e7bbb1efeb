import QuestionBoard.Lock.Command
import QuestionBoard.Proofs.OrderedMap

/-!
The states that a lock comes to. Every task takes the lock once and gives it back when its block
ends; between two turns a task may be started, cancelled, or told how its block is to end, and the
events so far may be taken off; any task that is to run may have the next turn, and it keeps it, step
by step, until it sleeps or ends. A task of the program that takes the lock several times is one task
here for each time.

A point has a phase: outside, waiting for the lock, or holding it. Rousing a task moves it to a point
of the same phase, so the counts of tasks by phase do not see it.
-/

namespace QuestionBoard

namespace Lock

/-- Where a task stands with regard to the lock. -/
inductive Phase
  /-- It does not want the lock yet, or not any more. -/
  | outside
  /-- It is counted among those that wait. -/
  | waiting
  /-- It has the lock and has not given it back. -/
  | holding
  deriving DecidableEq

/-- The phase in which a task comes to a stage; the stage's work moves it to the next. -/
def Stage.phase : Stage → Phase
  | .announce => .outside
  | .test | .take | .abandon => .waiting
  | .giveBack _ => .holding

def Point.phase : Point → Phase
  | .fresh | .done => .outside
  | .wantsGuard stage | .queued stage | .owningGuard stage => stage.phase
  | .parked _ => .waiting
  | .holding | .inside _ => .holding

/-- Whether a task may stand at a point while it is not its turn. -/
def Point.isRest : Point → Bool
  | .fresh | .parked _ | .inside _ | .done => true
  | _ => false

def Task.isIn (mode : Mode) (phase : Phase) (task : Task) : Bool :=
  task.mode == mode && task.point.phase == phase

/-- What a task adds to the number of tasks in a phase. -/
def Task.tally (mode : Mode) (phase : Phase) (task : Task) : Nat :=
  if task.isIn mode phase then 1 else 0

end Lock

namespace LockSystem

open Lock

/-- How many tasks are in a phase, in a mode. -/
def count (mode : Mode) (phase : Phase) (s : LockSystem) : Nat :=
  s.tasks.values.countP (Task.isIn mode phase)

/-- Whether a command keeps the lock's users matched: a new task has a name of its own and gives
back what it takes, and nobody else gives the lock back. -/
def Admissible (s : LockSystem) : Command → Prop
  | .start name _ hasBlock => hasBlock = true ∧ s.tasks.get? name = none
  | .finish _ _ | .cancel _ => True
  | .giveBack _ => False

/-- The states that a lock comes to, each with the task whose turn it is. -/
inductive Reachable : Option String → LockSystem → Prop
  | idle : Reachable none {}
  | heard {s : LockSystem} : Reachable none s → Reachable none { s with events := [] }
  | command {s : LockSystem} (command : Command) :
      Reachable none s → s.Admissible command → Reachable none (s.perform command)
  | turn {s : LockSystem} (name : String) :
      Reachable none s → name ∈ s.ready → Reachable (some name) { s with ready := s.ready.erase name }
  | goOn {s : LockSystem} {name : String} :
      Reachable (some name) s → (s.step name).2 = true → Reachable (some name) (s.step name).1
  | sleep {s : LockSystem} {name : String} :
      Reachable (some name) s → (s.step name).2 = false → Reachable none (s.step name).1

/-! ### One task moves -/

variable {s : LockSystem} {name : String} {task : Task}

theorem tally_of_phase_eq {task' : Task} (mode : Mode) (phase : Phase) (hmode : task'.mode = task.mode)
    (hphase : task'.point.phase = task.point.phase) : task'.tally mode phase = task.tally mode phase := by
  have hin : task'.isIn mode phase = task.isIn mode phase := by
    simp only [Task.isIn, hmode, hphase]
  rw [Task.tally, Task.tally, hin]

theorem tally_done (task : Task) (mode : Mode) {phase : Phase} (hphase : phase ≠ .outside) :
    { task with point := .done }.tally mode phase = 0 := by
  refine if_neg ?_
  simp only [Task.isIn, Point.phase, Bool.and_eq_true, beq_iff_eq, not_and]
  exact fun _ h => hphase h.symm

theorem count_insert (mode : Mode) (phase : Phase) (new : Task) (h : s.tasks.get? name = some task) :
    { s with tasks := s.tasks.insert name new }.count mode phase + task.tally mode phase =
      s.count mode phase + new.tally mode phase :=
  OrderedMap.countP_values_insert (Task.isIn mode phase) new h

theorem count_insert_new (mode : Mode) (phase : Phase) (new : Task) (h : s.tasks.get? name = none) :
    { s with tasks := s.tasks.insert name new }.count mode phase =
      s.count mode phase + new.tally mode phase :=
  OrderedMap.countP_values_insert_new (Task.isIn mode phase) new h

theorem count_pos {mode : Mode} {phase : Phase} (h : s.tasks.get? name = some task)
    (hin : task.isIn mode phase = true) : 0 < s.count mode phase := by
  rw [count, List.countP_pos_iff]
  exact ⟨task, List.mem_map_of_mem (f := Prod.snd) (OrderedMap.get?_eq_some_iff.mp h), hin⟩

theorem changeTask_eq (change : Task → Task) (h : s.tasks.get? name = some task) :
    s.changeTask name change = { s with tasks := s.tasks.insert name (change task) } := by
  rw [changeTask, h]

theorem changeTask_of_none (change : Task → Task) (h : s.tasks.get? name = none) :
    s.changeTask name change = s := by
  rw [changeTask, h]

theorem moveTo_eq (point : Point) (h : s.tasks.get? name = some task) :
    s.moveTo name point = { s with tasks := s.tasks.insert name { task with point } } :=
  changeTask_eq _ h

/-! ### Rousing -/

/-- The lock with other counts. -/
def recount (readers : Int) (writer : Bool) (waitingWriters : Int) (s : LockSystem) : LockSystem :=
  { s with readers, writer, waitingWriters }

/-- Rousing a task moves it within its phase, if it sleeps and nothing has roused it yet. -/
theorem rouse_cases (name : String) (s : LockSystem) :
    s.rouse name = s ∨ ∃ task point, s.tasks.get? name = some task ∧
      task.point.isRest = true ∧ point.isRest = true ∧ point.phase = task.point.phase ∧
      s.rouse name = { s with tasks := s.tasks.insert name { task with point } }.schedule name := by
  cases htask : s.tasks.get? name with
  | none =>
      left
      simp [rouse, pointOf, htask]
  | some task =>
      have hpointOf : s.pointOf name = some task.point := by simp [pointOf, htask]
      by_cases hparked : task.point = .parked false
      · right
        refine ⟨task, .parked true, rfl, ?_⟩
        simp [rouse, hpointOf, hparked, moveTo_eq _ htask, Point.isRest, Point.phase]
      · by_cases hinside : task.point = .inside false
        · right
          refine ⟨task, .inside true, rfl, ?_⟩
          simp [rouse, hpointOf, hinside, moveTo_eq _ htask, Point.isRest, Point.phase]
        · left
          rw [rouse, hpointOf]
          split <;> simp_all

theorem rouse_recount (readers : Int) (writer : Bool) (waitingWriters : Int) :
    (s.recount readers writer waitingWriters).rouse name =
      (s.rouse name).recount readers writer waitingWriters := by
  cases htask : s.tasks.get? name with
  | none => simp [rouse, pointOf, recount, htask]
  | some task =>
      have hmove : ∀ point, (s.recount readers writer waitingWriters).moveTo name point =
          (s.moveTo name point).recount readers writer waitingWriters := by
        intro point
        rw [moveTo_eq point htask,
          moveTo_eq (s := s.recount readers writer waitingWriters) point htask]
        rfl
      have hpointOf : (s.recount readers writer waitingWriters).pointOf name = s.pointOf name := rfl
      rw [rouse, rouse, hpointOf]
      split
      · rw [hmove]
        rfl
      · rw [hmove]
        rfl
      · rfl

/-- What holds of the lock, and of it after any task is roused, holds after all are roused. -/
theorem rouseParked_induct {P : LockSystem → Prop} (h : P s)
    (hrouse : ∀ (u : LockSystem) (name : String), P u → P (u.rouse name)) : P s.rouseParked :=
  List.foldlRecOn s.parked _ h fun u hu name _ => hrouse u name hu

theorem rouseParked_recount (readers : Int) (writer : Bool) (waitingWriters : Int) :
    (s.recount readers writer waitingWriters).rouseParked =
      s.rouseParked.recount readers writer waitingWriters :=
  List.foldl_hom (recount readers writer waitingWriters)
    fun _ _ => rouse_recount readers writer waitingWriters

theorem exists_rouse_eq (name : String) (s : LockSystem) :
    ∃ tasks ready, s.rouse name = { s with tasks, ready } := by
  rcases rouse_cases name s with h | ⟨_, _, _, _, _, _, h⟩
  · exact ⟨_, _, h⟩
  · exact ⟨_, _, h⟩

theorem exists_rouseParked_eq (s : LockSystem) :
    ∃ tasks ready, s.rouseParked = { s with tasks, ready } := by
  refine rouseParked_induct (P := fun u => ∃ tasks ready, u = { s with tasks, ready }) ⟨_, _, rfl⟩ ?_
  rintro _ name ⟨tasks, ready, rfl⟩
  obtain ⟨tasks', ready', h⟩ := exists_rouse_eq name { s with tasks, ready }
  exact ⟨tasks', ready', h⟩

/-- A task that does not sleep is not moved by rousing. -/
theorem get?_rouse (other : String) (htask : s.tasks.get? name = some task)
    (hpoint : task.point.isRest = false) : (s.rouse other).tasks.get? name = some task := by
  rcases rouse_cases other s with heq | ⟨task', point, htask', hrest, _, _, heq⟩
  · rw [heq, htask]
  · rw [heq]
    have hne : name ≠ other := by
      rintro rfl
      obtain rfl : task = task' := Option.some.inj (htask.symm.trans htask')
      rw [hpoint] at hrest
      cases hrest
    change (s.tasks.insert other _).get? name = some task
    rw [OrderedMap.get?_insert, if_neg hne, htask]

theorem get?_rouseParked (htask : s.tasks.get? name = some task)
    (hpoint : task.point.isRest = false) : s.rouseParked.tasks.get? name = some task :=
  rouseParked_induct (P := fun u => u.tasks.get? name = some task) htask
    fun _ other h => get?_rouse other h hpoint

end LockSystem

end QuestionBoard
