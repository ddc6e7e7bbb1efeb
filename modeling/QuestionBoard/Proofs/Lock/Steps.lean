import QuestionBoard.Proofs.Lock.Reachable

/-!
What one step of a task comes to, while nobody else owns the guard: `Steps` has a case for each way
a step can go, with the state after it written out and whether the task goes on at once.
-/

namespace QuestionBoard

namespace LockSystem

open Lock

def place (name : String) (task : Task) (point : Point) (s : LockSystem) : LockSystem :=
  { s with tasks := s.tasks.insert name { task with point } }

/-- The lock with a task at its end: the guard is free and the event is reported. -/
def retire (name : String) (task : Task) (event : Event) (s : LockSystem) : LockSystem :=
  { s with guard := none, events := s.events ++ [event] }.place name task .done

/-- The ways a step of a task can go. -/
inductive Steps (s : LockSystem) (name : String) (task : Task) : LockSystem → Bool → Prop
  | neverRun : task.point = .fresh → task.cancelled = true →
      Steps s name task (s.place name task .done) false
  | start : task.point = .fresh → task.cancelled = false →
      Steps s name task (s.place name task (.wantsGuard .announce)) true
  | own (stage : Stage) : task.point = .wantsGuard stage → s.guard = none →
      Steps s name task ({ s with guard := some name }.place name task (.owningGuard stage)) true
  | announceShared : task.point = .owningGuard .announce → task.mode = .shared →
      Steps s name task (s.place name task (.owningGuard .test)) true
  | announceExclusive : task.point = .owningGuard .announce → task.mode = .exclusive →
      Steps s name task ({ s with waitingWriters := s.waitingWriters + 1 }.place name task
        (.owningGuard .test)) true
  | findFree : task.point = .owningGuard .test → s.admits task.mode = true →
      Steps s name task (s.place name task (.owningGuard .take)) true
  | park : task.point = .owningGuard .test → s.admits task.mode = false →
      Steps s name task ({ s with parked := s.parked ++ [name], guard := none }.place name task
        (.parked false)) false
  | takeShared : task.point = .owningGuard .take → task.mode = .shared →
      Steps s name task ({ s with readers := s.readers + 1, guard := none }.place name task
        .holding) true
  | takeExclusive : task.point = .owningGuard .take → task.mode = .exclusive →
      Steps s name task
        ({ s with waitingWriters := s.waitingWriters - 1, writer := true, guard := none }.place name
          task .holding) true
  | abandonShared : task.point = .owningGuard .abandon → task.mode = .shared →
      Steps s name task (s.retire name task (.cancelled name)) false
  | abandonExclusive : task.point = .owningGuard .abandon → task.mode = .exclusive →
      Steps s name task
        ((s.rouseParked.recount s.readers s.writer (s.waitingWriters - 1)).retire name task
          (.cancelled name)) false
  | giveBackShared (ended : BlockEnd) : task.point = .owningGuard (.giveBack ended) →
      task.mode = .shared → s.readers ≠ 1 →
      Steps s name task
        ((s.recount (s.readers - 1) s.writer s.waitingWriters).retire name task
          (endEvent name ended)) false
  | giveBackLast (ended : BlockEnd) : task.point = .owningGuard (.giveBack ended) →
      task.mode = .shared → s.readers = 1 →
      Steps s name task
        ((s.rouseParked.recount (s.readers - 1) s.writer s.waitingWriters).retire name task
          (endEvent name ended)) false
  | giveBackExclusive (ended : BlockEnd) : task.point = .owningGuard (.giveBack ended) →
      task.mode = .exclusive →
      Steps s name task
        ((s.rouseParked.recount s.readers false s.waitingWriters).retire name task
          (endEvent name ended)) false
  | wake (roused : Bool) : task.point = .parked roused →
      Steps s name task ({ s with parked := s.parked.erase name }.place name task
        (.wantsGuard (if task.cancelled then .abandon else .test))) true
  | pass (ended : BlockEnd) : task.point = .holding → task.ending = some ended →
      Steps s name task
        ((s.report (.entered name)).place name task (.wantsGuard (.giveBack ended))) true
  | enter : task.point = .holding → task.ending = none →
      Steps s name task ((s.report (.entered name)).place name task (.inside false)) false
  | leave (roused : Bool) (ended : BlockEnd) : task.point = .inside roused →
      blockEnd task = some ended →
      Steps s name task (s.place name task (.wantsGuard (.giveBack ended))) true
  | stay (roused : Bool) : task.point = .inside roused → blockEnd task = none →
      Steps s name task (s.place name task (.inside false)) false
  | finished : task.point = .done → Steps s name task s false

variable {s : LockSystem} {name : String} {task : Task}

theorem moveTo_eq_place (point : Point) (h : s.tasks.get? name = some task) :
    s.moveTo name point = s.place name task point := moveTo_eq point h

theorem freeGuard_eq (h : s.guardQueue = []) : s.freeGuard = { s with guard := none } := by
  rw [freeGuard, h]

/-- A task that frees the guard and moves on. -/
theorem freeGuard_moveTo_eq (h : s.guardQueue = []) (htask : s.tasks.get? name = some task)
    (point : Point) :
    s.freeGuard.moveTo name point = { s with guard := none }.place name task point := by
  rw [freeGuard_eq h]
  exact moveTo_eq_place point htask

/-- A task that frees the guard and comes to its end. -/
theorem retire_eq (h : s.guardQueue = []) (htask : s.tasks.get? name = some task) (event : Event) :
    (s.freeGuard.moveTo name .done).report event = s.retire name task event := by
  rw [freeGuard_moveTo_eq h htask]
  rfl

/-- A task that gives up, or gives the lock back, rouses the parked tasks before it ends. -/
theorem retire_rouseParked_eq (h : s.guardQueue = []) (htask : s.tasks.get? name = some task)
    (hrest : task.point.isRest = false) (event : Event) (readers : Int) (writer : Bool)
    (waitingWriters : Int) :
    ((s.recount readers writer waitingWriters).rouseParked.freeGuard.moveTo name .done).report event =
      (s.rouseParked.recount readers writer waitingWriters).retire name task event := by
  obtain ⟨tasks, ready, hframe⟩ := exists_rouseParked_eq s
  have hqueue : (s.rouseParked.recount readers writer waitingWriters).guardQueue = [] := by
    rw [hframe]
    exact h
  rw [rouseParked_recount]
  exact retire_eq hqueue (get?_rouseParked htask hrest) event

/-- What a task that owns the guard does. -/
theorem stageStep_cases (hqueue : s.guardQueue = []) (htask : s.tasks.get? name = some task)
    (stage : Stage) (hpoint : task.point = .owningGuard stage) :
    s.Steps name task (s.stageStep name task stage).1 (s.stageStep name task stage).2 := by
  have hrest : task.point.isRest = false := by rw [hpoint]; rfl
  cases stage with
  | announce =>
      cases hmode : task.mode with
      | shared =>
          have hmove := moveTo_eq_place (.owningGuard .test) htask
          simpa only [stageStep, hmode, hmove] using Steps.announceShared hpoint hmode
      | exclusive =>
          have hmove := moveTo_eq_place (s := { s with waitingWriters := s.waitingWriters + 1 })
            (.owningGuard .test) htask
          simpa only [stageStep, hmode, hmove] using Steps.announceExclusive hpoint hmode
  | test =>
      cases hadmits : s.admits task.mode with
      | true =>
          have hmove := moveTo_eq_place (.owningGuard .take) htask
          simpa only [stageStep, hadmits, if_true, hmove] using Steps.findFree hpoint hadmits
      | false =>
          have hmove := freeGuard_moveTo_eq (s := { s with parked := s.parked ++ [name] }) hqueue
            htask (.parked false)
          simpa only [stageStep, hadmits, if_false, hmove, Bool.false_eq_true] using
            Steps.park hpoint hadmits
  | take =>
      cases hmode : task.mode with
      | shared =>
          have hmove := freeGuard_moveTo_eq (s := { s with readers := s.readers + 1 }) hqueue htask
            .holding
          simpa only [stageStep, hmode, hmove] using Steps.takeShared hpoint hmode
      | exclusive =>
          have hmove := freeGuard_moveTo_eq
            (s := { s with waitingWriters := s.waitingWriters - 1, writer := true }) hqueue htask
            .holding
          simpa only [stageStep, hmode, hmove] using Steps.takeExclusive hpoint hmode
  | abandon =>
      cases hmode : task.mode with
      | shared =>
          have hend := retire_eq hqueue htask (.cancelled name)
          simpa only [stageStep, hmode, hend] using Steps.abandonShared hpoint hmode
      | exclusive =>
          have hend := retire_rouseParked_eq hqueue htask hrest (.cancelled name) s.readers s.writer
            (s.waitingWriters - 1)
          rw [recount] at hend
          simpa only [stageStep, hmode, hend] using Steps.abandonExclusive hpoint hmode
  | giveBack ended =>
      cases hmode : task.mode with
      | shared =>
          by_cases hlast : s.readers = 1
          · have hend := retire_rouseParked_eq hqueue htask hrest (endEvent name ended)
              (s.readers - 1) s.writer s.waitingWriters
            have hzero : s.readers - 1 = 0 := by omega
            rw [recount] at hend
            simpa only [stageStep, giveBack, hmode, if_pos hzero, hend] using
              Steps.giveBackLast ended hpoint hmode hlast
          · have hend := retire_eq (s := s.recount (s.readers - 1) s.writer s.waitingWriters) hqueue
              htask (endEvent name ended)
            have hzero : ¬s.readers - 1 = 0 := by omega
            rw [recount] at hend
            simpa only [stageStep, giveBack, hmode, if_neg hzero, hend, recount] using
              Steps.giveBackShared ended hpoint hmode hlast
      | exclusive =>
          have hend := retire_rouseParked_eq hqueue htask hrest (endEvent name ended) s.readers false
            s.waitingWriters
          rw [recount] at hend
          simpa only [stageStep, giveBack, hmode, hend] using Steps.giveBackExclusive ended hpoint hmode

/-- What a task does that finds the guard free, or owns it, and has a block to enter once it has the
lock. -/
theorem step_cases (hqueue : s.guardQueue = []) (htask : s.tasks.get? name = some task)
    (hblock : task.point = .holding → task.hasBlock = true)
    (hguard : ∀ stage, task.point = .wantsGuard stage → s.guard = none)
    (hqueued : ∀ stage, task.point ≠ .queued stage) :
    s.Steps name task (s.step name).1 (s.step name).2 := by
  cases hpoint : task.point with
  | fresh =>
      cases hcancelled : task.cancelled with
      | true =>
          have hmove := moveTo_eq_place .done htask
          simpa only [step, htask, hpoint, hcancelled, if_true, hmove] using
            Steps.neverRun hpoint hcancelled
      | false =>
          have hmove := moveTo_eq_place (.wantsGuard .announce) htask
          simpa only [step, htask, hpoint, hcancelled, Bool.false_eq_true, if_false, hmove] using
            Steps.start hpoint hcancelled
  | wantsGuard stage =>
      have hnone := hguard stage hpoint
      have hmove := moveTo_eq_place (s := { s with guard := some name }) (.owningGuard stage) htask
      simpa only [step, htask, hpoint, hnone, Option.isNone_none, if_true, hmove] using
        Steps.own stage hpoint hnone
  | queued stage => exact absurd hpoint (hqueued stage)
  | owningGuard stage =>
      have hstage := stageStep_cases hqueue htask stage hpoint
      simpa only [step, htask, hpoint] using hstage
  | parked roused =>
      have hmove := moveTo_eq_place (s := { s with parked := s.parked.erase name })
        (.wantsGuard (if task.cancelled then .abandon else .test)) htask
      simpa only [step, htask, hpoint, hmove] using Steps.wake roused hpoint
  | holding =>
      have hblock := hblock hpoint
      cases hending : task.ending with
      | none =>
          have hmove := moveTo_eq_place (s := s.report (.entered name)) (.inside false) htask
          simpa only [step, htask, hpoint, hblock, Bool.not_true, Bool.false_eq_true, if_false, hending,
            hmove] using Steps.enter hpoint hending
      | some ended =>
          have hmove := moveTo_eq_place (s := s.report (.entered name))
            (.wantsGuard (.giveBack ended)) htask
          simpa only [step, htask, hpoint, hblock, Bool.not_true, Bool.false_eq_true, if_false, hending,
            hmove] using Steps.pass ended hpoint hending
  | inside roused =>
      cases hending : blockEnd task with
      | none =>
          have hmove := moveTo_eq_place (.inside false) htask
          simpa only [step, htask, hpoint, hending, hmove] using Steps.stay roused hpoint hending
      | some ended =>
          have hmove := moveTo_eq_place (.wantsGuard (.giveBack ended)) htask
          simpa only [step, htask, hpoint, hending, hmove] using
            Steps.leave roused ended hpoint hending
  | done =>
      simpa only [step, htask, hpoint] using Steps.finished hpoint

end LockSystem

end QuestionBoard
