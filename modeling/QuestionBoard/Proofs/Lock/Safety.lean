import QuestionBoard.Proofs.Lock.Invariant

/-!
The lock is safe. Whatever tasks there are, in whatever order they have their turns, and whichever of
them are cancelled: the counts say how many tasks hold the lock and wait for it, and a task that holds
it in exclusive mode holds it alone. The states that `performAll` comes to are among those that this
is about.
-/

namespace QuestionBoard

namespace LockSystem

open Lock

variable {s t : LockSystem} {name : String} {task : Task} {running : Option String}

/-! ### Turns -/

/-- How many steps a task at a stage can still take before it sleeps or ends, at most. -/
def stageStepsLeft : Stage → Nat
  | .announce => 6
  | .test => 5
  | .take => 4
  | .abandon | .giveBack _ => 1

/-- How many steps a task can still take before it sleeps or ends, at most. -/
def stepsLeft : Point → Nat
  | .fresh => 8
  | .wantsGuard stage | .queued stage => stageStepsLeft stage + 1
  | .owningGuard stage => stageStepsLeft stage
  | .parked _ => 7
  | .holding | .inside _ => 3
  | .done => 1

theorem stepsLeft_bounds (point : Point) : 0 < stepsLeft point ∧ stepsLeft point < stepsPerTurn := by
  have hstage : ∀ stage, 0 < stageStepsLeft stage ∧ stageStepsLeft stage ≤ 6 := by
    intro stage
    cases stage <;> simp [stageStepsLeft]
  cases point with
  | wantsGuard stage | queued stage | owningGuard stage =>
      have := hstage stage
      simp only [stepsLeft, stepsPerTurn]
      omega
  | _ => simp [stepsLeft, stepsPerTurn]

/-- A task that goes on has fewer steps left. -/
theorem stepsLeft_lt_of_steps (hsteps : s.Steps name task t true) :
    ∃ task', t.tasks.get? name = some task' ∧ stepsLeft task'.point < stepsLeft task.point := by
  have hplace : ∀ (u : LockSystem) (point : Point), stepsLeft point < stepsLeft task.point →
      ∃ task', (u.place name task point).tasks.get? name = some task' ∧
        stepsLeft task'.point < stepsLeft task.point :=
    fun u point h => ⟨{ task with point }, by simp [place], h⟩
  cases hsteps with
  | start hpoint _ => exact hplace _ _ (by simp [hpoint, stepsLeft, stageStepsLeft])
  | own stage hpoint _ => exact hplace _ _ (by simp [hpoint, stepsLeft])
  | announceShared hpoint _ => exact hplace _ _ (by simp [hpoint, stepsLeft, stageStepsLeft])
  | announceExclusive hpoint _ => exact hplace _ _ (by simp [hpoint, stepsLeft, stageStepsLeft])
  | findFree hpoint _ => exact hplace _ _ (by simp [hpoint, stepsLeft, stageStepsLeft])
  | takeShared hpoint _ => exact hplace _ _ (by simp [hpoint, stepsLeft, stageStepsLeft])
  | takeExclusive hpoint _ => exact hplace _ _ (by simp [hpoint, stepsLeft, stageStepsLeft])
  | wake roused hpoint =>
      refine hplace _ _ ?_
      rw [hpoint]
      split <;> simp [stepsLeft, stageStepsLeft]
  | pass ended hpoint _ => exact hplace _ _ (by simp [hpoint, stepsLeft, stageStepsLeft])
  | leave roused ended hpoint _ => exact hplace _ _ (by simp [hpoint, stepsLeft, stageStepsLeft])

theorem runTask_succ (fuel : Nat) :
    s.runTask name (fuel + 1) =
      if (s.step name).2 then (s.step name).1.runTask name fuel else (s.step name).1 := rfl

theorem reachable_runTask (fuel : Nat) (h : Reachable (some name) s) (hfuel : 0 < fuel)
    (hleft : ∀ task, s.tasks.get? name = some task → stepsLeft task.point ≤ fuel) :
    Reachable none (s.runTask name fuel) := by
  induction fuel generalizing s with
  | zero => exact absurd hfuel (Nat.lt_irrefl 0)
  | succ fuel ih =>
      rw [runTask_succ]
      cases hgoesOn : (s.step name).2 with
      | false =>
          rw [if_neg (by simp)]
          exact h.sleep hgoesOn
      | true =>
          rw [if_pos rfl]
          cases htask : s.tasks.get? name with
          | none =>
              rw [step_of_none htask] at hgoesOn
              cases hgoesOn
          | some task =>
              have hsteps := (sound_of_reachable h).steps htask
              rw [hgoesOn] at hsteps
              obtain ⟨task', htask', hlt⟩ := stepsLeft_lt_of_steps hsteps
              have hle := hleft task htask
              have hpos := (stepsLeft_bounds task'.point).1
              refine ih (h.goOn hgoesOn) (by omega) fun task'' htask'' => ?_
              obtain rfl : task' = task'' := Option.some.inj (htask'.symm.trans htask'')
              omega

theorem reachable_settleWithin (fuel : Nat) (h : Reachable none s) :
    Reachable none (s.settleWithin fuel) := by
  induction fuel generalizing s with
  | zero => exact h
  | succ fuel ih =>
      rw [settleWithin]
      cases hready : s.ready with
      | nil => exact h
      | cons name rest =>
          have hturn := h.turn name (by simp [hready])
          rw [hready, List.erase_cons_head] at hturn
          exact ih (reachable_runTask stepsPerTurn hturn (by decide) fun task _ =>
            Nat.le_of_lt (stepsLeft_bounds task.point).2)

/-- Whether commands keep the lock's users matched, one after another. -/
def AllAdmissible : List Command → LockSystem → Prop
  | [], _ => True
  | command :: rest, s => s.Admissible command ∧ AllAdmissible rest (s.perform command)

/-- Commands that keep the users matched lead to a reachable state. -/
theorem reachable_performAll (commands : List Command) (h : Reachable none s)
    (hadmissible : AllAdmissible commands { s with events := [] }) :
    Reachable none (s.performAll commands) := by
  have hfold : ∀ (commands : List Command) (s : LockSystem), Reachable none s →
      AllAdmissible commands s →
      Reachable none (commands.foldl (fun (s : LockSystem) command => s.perform command) s) := by
    intro commands
    induction commands with
    | nil => exact fun _ h _ => h
    | cons command rest ih => exact fun s h hall => ih _ (h.command command hall.1) hall.2
  exact reachable_settleWithin _ (hfold commands _ h.heard hadmissible)

/-! ### Safety -/

/-- Two tasks that wait or hold in one mode count as two. -/
theorem two_le_count {mode : Mode} {phase : Phase} {other : String} {task' : Task}
    (htask : s.tasks.get? name = some task) (hin : task.isIn mode phase = true)
    (htask' : s.tasks.get? other = some task') (hin' : task'.isIn mode phase = true)
    (hphase : phase ≠ .outside) (hne : name ≠ other) : 2 ≤ s.count mode phase := by
  have hcount := count_insert mode phase { task with point := .done } htask
  have hrest : 0 < { s with tasks := s.tasks.insert name { task with point := .done } }.count mode phase := by
    have hother : (s.tasks.insert name { task with point := .done }).get? other = some task' := by
      rw [OrderedMap.get?_insert, if_neg (Ne.symm hne), htask']
    exact count_pos hother hin'
  have hbefore : task.tally mode phase = 1 := if_pos hin
  have hafter := tally_done task mode hphase
  omega

/-- A task that holds the lock in exclusive mode is the only one that holds it. -/
theorem Sound.eq_of_exclusive (h : Sound running s) {other : String} {task' : Task}
    (htask : s.tasks.get? name = some task) (hin : task.isIn .exclusive .holding = true)
    (htask' : s.tasks.get? other = some task') (hphase : task'.point.phase = .holding) :
    name = other := by
  have hwriter := h.writer_eq_true htask hin
  cases hmode : task'.mode with
  | shared =>
      have hpos := h.readers_pos htask' (by simp [Task.isIn, hmode, hphase])
      rw [h.alone hwriter] at hpos
      exact absurd hpos (Int.lt_irrefl 0)
  | exclusive =>
      by_contra hne
      have htwo := two_le_count htask hin htask' (by simp [Task.isIn, hmode, hphase]) (by simp) hne
      have hone := h.writer
      rw [if_pos hwriter] at hone
      omega

/-- The counts of the lock are the numbers of tasks that hold it and wait for it, a writer that holds
it holds it alone, and between turns every task is asleep, done or yet to begin. -/
theorem counts_of_reachable (h : Reachable running s) :
    s.readers = s.count .shared .holding ∧
      (s.writer = true ↔ s.count .exclusive .holding = 1) ∧
      s.waitingWriters = s.count .exclusive .waiting ∧
      (∀ name other task task', s.tasks.get? name = some task → s.tasks.get? other = some task' →
        task.isIn .exclusive .holding = true → task'.point.phase = .holding → name = other) ∧
      (running = none → ∀ name task, s.tasks.get? name = some task → task.point.isRest = true) := by
  have hsound := sound_of_reachable h
  refine ⟨hsound.readers, ?_, hsound.waiting, ?_, ?_⟩
  · have hwriter := hsound.writer
    cases hheld : s.writer <;> simp only [hheld] at hwriter <;> simp [← hwriter]
  · exact fun name other task task' htask htask' hin hphase =>
      hsound.eq_of_exclusive htask hin htask' hphase
  · rintro rfl name task htask
    exact hsound.rest name task htask (by simp)

/-- Three writers and a reader come one after another, and then the second writer is cancelled. -/
def contended : LockSystem :=
  (performAll [.start "first" .exclusive true, .start "second" .exclusive true,
    .start "third" .exclusive true, .start "reader" .shared true] {}).performAll [.cancel "second"]

theorem reachable_contended : Reachable none contended := by
  have hstarted := reachable_performAll [.start "first" .exclusive true, .start "second" .exclusive true,
    .start "third" .exclusive true, .start "reader" .shared true] .idle
    ⟨⟨rfl, rfl⟩, ⟨rfl, rfl⟩, ⟨rfl, rfl⟩, ⟨rfl, rfl⟩, trivial⟩
  exact reachable_performAll [.cancel "second"] hstarted ⟨trivial, trivial⟩

/-- The first writer holds the lock alone and the third waits; the second is not counted any more. -/
theorem counts_contended : Reachable none contended ∧
    contended.readers = 0 ∧ contended.count .shared .holding = 0 ∧
      contended.writer = true ∧ contended.count .exclusive .holding = 1 ∧
      contended.waitingWriters = 1 ∧ contended.count .exclusive .waiting = 1 := by
  obtain ⟨hshared, hexclusive, hwait, -, -⟩ := counts_of_reachable reachable_contended
  have hreaders : contended.readers = 0 := by decide +kernel
  have hwriter : contended.writer = true := by decide +kernel
  have hwaiting : contended.waitingWriters = 1 := by decide +kernel
  refine ⟨reachable_contended, hreaders, ?_, hwriter, hexclusive.mp hwriter, hwaiting, ?_⟩
  · omega
  · omega

end LockSystem

end QuestionBoard
