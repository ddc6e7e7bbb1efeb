import QuestionBoard.Proofs.Lock.Waking

/-!
How a task passes through the lock: it is ahead of its block until it has the lock and is told how the
block ends, then it leaves, and then it is done; one that was cancelled before it had the lock is done
without a block. A step of another task at most rouses it.
-/

namespace QuestionBoard

namespace Lock

/-- Whether a task has its block before it; it gives up only if it was cancelled. -/
def Task.isAhead (task : Task) : Bool :=
  task.ending.isNone && match task.point with
    | .fresh | .parked _ | .holding => true
    | .wantsGuard stage | .queued stage | .owningGuard stage =>
      match stage with
      | .announce | .test | .take => true
      | .abandon => task.cancelled
      | .giveBack _ => false
    | .inside _ | .done => false

/-- Whether a task has had its block and has the lock to give back. -/
def Task.isLeaving (task : Task) : Bool :=
  match task.point with
  | .holding => task.ending.isSome
  | .wantsGuard (.giveBack _) | .queued (.giveBack _) | .owningGuard (.giveBack _) => true
  | _ => false

theorem Task.isAhead_cancelled {task : Task} (h : task.isAhead = true) :
    { task with cancelled := true }.isAhead = true := by
  unfold isAhead at h ⊢
  cases hpoint : task.point with
  | wantsGuard stage | queued stage | owningGuard stage => cases stage <;> simp_all
  | _ => simp_all

theorem Task.isLeaving_of_isAhead {task : Task} (h : task.isAhead = true) : task.isLeaving = false := by
  unfold isAhead at h
  unfold isLeaving
  cases hpoint : task.point with
  | wantsGuard stage | queued stage | owningGuard stage => cases stage <;> simp_all
  | _ => simp_all

theorem Task.point_ne_done_of_isAhead {task : Task} (h : task.isAhead = true) : task.point ≠ .done := by
  intro hpoint
  simp [isAhead, hpoint] at h

theorem Task.point_ne_done_of_isLeaving {task : Task} (h : task.isLeaving = true) :
    task.point ≠ .done := by
  intro hpoint
  simp [isLeaving, hpoint] at h

/-- Where a task comes to with a step of its own, when its block has not just been reached. -/
inductive Task.Passes (task : Task) : Point → Prop
  | ahead {point : Point} : task.isAhead = true → { task with point }.isAhead = true →
      task.Passes point
  | givenUp : task.isAhead = true → task.cancelled = true → task.Passes .done
  | leaving {point : Point} : task.isLeaving = true → { task with point }.isLeaving = true →
      task.Passes point
  | done : task.isLeaving = true ∨ task.point = .done → task.Passes .done

theorem Task.isAhead_roused (task : Task) :
    { task with point := task.point.roused }.isAhead = task.isAhead := by
  unfold isAhead Point.roused
  cases task.point <;> rfl

theorem Task.isLeaving_roused (task : Task) :
    { task with point := task.point.roused }.isLeaving = task.isLeaving := by
  unfold isLeaving Point.roused
  cases task.point <;> rfl

end Lock

namespace LockSystem

open Lock

variable {s t : LockSystem} {name other : String} {task : Task} {running : Option String}

/-! ### Steps -/

/-- A step moves the task whose turn it is, and at most rouses the others. -/
theorem Steps.get?_of_ne {goesOn : Bool} (h : s.Steps name task t goesOn) (hne : other ≠ name) :
    t.tasks.get? other = s.tasks.get? other ∨
      t.tasks.get? other = s.rouseParked.tasks.get? other := by
  cases h with
  | finished hpoint => exact Or.inl rfl
  | abandonExclusive _ _ | giveBackLast _ _ _ _ | giveBackExclusive _ _ _ =>
      right
      exact (OrderedMap.get?_insert ..).trans (if_neg hne)
  | _ =>
      left
      exact (OrderedMap.get?_insert ..).trans (if_neg hne)

theorem Steps.exists_passes {goesOn : Bool} (h : s.Steps name task t goesOn)
    (htask : s.tasks.get? name = some task)
    (hcourse : task.isAhead = true ∧ task.point ≠ .holding ∨ task.isLeaving = true ∨
      task.point = .done) :
    ∃ point, t.tasks.get? name = some { task with point } ∧ task.Passes point := by
  have hplaced : ∀ (u : LockSystem) (point : Point), task.Passes point →
      ∃ point', (u.place name task point).tasks.get? name = some { task with point := point' } ∧
        task.Passes point' :=
    fun u point hpasses => ⟨point, (OrderedMap.get?_insert ..).trans (if_pos rfl), hpasses⟩
  cases h with
  | neverRun hpoint hcancelled =>
      have hahead : task.isAhead = true := by
        simpa [hpoint, Task.isAhead, Task.isLeaving] using hcourse
      exact hplaced _ _ (.givenUp hahead hcancelled)
  | start hpoint _ | announceShared hpoint _ | announceExclusive hpoint _ | findFree hpoint _
  | park hpoint _ | takeShared hpoint _ | takeExclusive hpoint _ =>
      have hahead : task.isAhead = true := by
        simpa [hpoint, Task.isAhead, Task.isLeaving] using hcourse
      exact hplaced _ _ (.ahead hahead (by simpa [hpoint, Task.isAhead] using hahead))
  | own stage hpoint _ =>
      cases stage with
      | giveBack ended =>
          exact hplaced _ _ (.leaving (by rw [Task.isLeaving, hpoint]) rfl)
      | _ =>
          have hahead : task.isAhead = true := by
            simpa [hpoint, Task.isAhead, Task.isLeaving] using hcourse
          exact hplaced _ _ (.ahead hahead (by simpa [hpoint, Task.isAhead] using hahead))
  | abandonShared hpoint _ | abandonExclusive hpoint _ =>
      have hahead : task.isAhead = true := by
        simpa [hpoint, Task.isAhead, Task.isLeaving] using hcourse
      have hcancelled : task.cancelled = true := by
        simp only [Task.isAhead, hpoint, Bool.and_eq_true] at hahead
        exact hahead.2
      exact hplaced _ _ (.givenUp hahead hcancelled)
  | giveBackShared ended hpoint _ _ | giveBackLast ended hpoint _ _ | giveBackExclusive ended hpoint _ =>
      exact hplaced _ _ (.done (Or.inl (by rw [Task.isLeaving, hpoint])))
  | wake roused hpoint =>
      have hahead : task.isAhead = true := by
        simpa [hpoint, Task.isAhead, Task.isLeaving] using hcourse
      refine hplaced _ _ (.ahead hahead ?_)
      cases hcancelled : task.cancelled <;> simpa [hpoint, hcancelled, Task.isAhead] using hahead
  | pass ended hpoint hending =>
      exact hplaced _ _ (.leaving (by simp [Task.isLeaving, hpoint, hending]) rfl)
  | enter hpoint hending =>
      simp [Task.isLeaving, hpoint, hending] at hcourse
  | leave roused ended hpoint _ | stay roused hpoint _ =>
      simp [Task.isAhead, Task.isLeaving, hpoint] at hcourse
  | finished hpoint => exact ⟨.done, by rw [htask, ← hpoint], .done (Or.inr hpoint)⟩

/-- A task keeps its course, and all but where it stands, while others have their turns. -/
theorem Sound.step_get?_of_ne (h : Sound (some name) s) (hne : other ≠ name) :
    (s.step name).1.tasks.get? other = s.tasks.get? other ∨
      (s.step name).1.tasks.get? other =
        (s.tasks.get? other).map fun task => { task with point := task.point.roused } := by
  cases htask : s.tasks.get? name with
  | none =>
      rw [step_of_none htask]
      exact Or.inl rfl
  | some task =>
      rcases (h.steps htask).get?_of_ne hne with heq | heq
      · exact Or.inl heq
      · rw [heq, get?_rouseParked_eq]
        by_cases hparked : other ∈ s.parked
        · simp [hparked]
        · simp [hparked]

/-! ### Commands -/

theorem get?_rouse_of_ne (hne : other ≠ name) :
    (s.rouse name).tasks.get? other = s.tasks.get? other := by
  rw [get?_rouse_eq]
  simp [hne]

theorem get?_changeTask (name other : String) (change : Task → Task) (s : LockSystem) :
    (s.changeTask name change).tasks.get? other =
      (s.tasks.get? other).map fun task => if other = name then change task else task := by
  cases htask : s.tasks.get? name with
  | none =>
      rw [changeTask_of_none change htask]
      by_cases hother : other = name
      · rw [hother, htask]
        rfl
      · simp [hother]
  | some task =>
      rw [changeTask_eq change htask]
      by_cases hother : other = name
      · simp [hother, htask]
      · simp [hother]

theorem get?_finish_of_ne (hne : other ≠ name) (ended : BlockEnd) :
    (s.finish name ended).tasks.get? other = s.tasks.get? other := by
  unfold finish rouseInside
  split
  · rw [get?_rouse_of_ne hne, get?_changeTask]
    simp [hne]
  · rw [get?_changeTask]
    simp [hne]

theorem finish_of_none (ended : BlockEnd) (htask : s.tasks.get? name = none) :
    s.finish name ended = s := by
  rw [finish, changeTask_of_none _ htask, rouseInside, pointOf, htask]
  rfl

/-- A task that has just taken the lock is told how its block ends. -/
theorem get?_finish_of_holding (ended : BlockEnd) (htask : s.tasks.get? name = some task)
    (hpoint : task.point = .holding) (hending : task.ending = none) :
    (s.finish name ended).tasks.get? name = some { task with ending := some ended } := by
  rw [finish, changeTask_eq _ htask, rouseInside, pointOf]
  simp [hpoint, hending]

theorem get?_cancel_of_ne (hne : other ≠ name) :
    (s.cancel name).tasks.get? other = s.tasks.get? other := by
  unfold cancel
  split
  · rfl
  · rfl
  · rw [get?_rouse_of_ne hne, get?_changeTask]
    simp [hne]

theorem get?_cancel (s : LockSystem) (name : String) : (s.cancel name).tasks.get? name =
    (s.tasks.get? name).map fun task =>
      if task.point = .done then task
      else { task with cancelled := true, point := task.point.roused } := by
  cases htask : s.tasks.get? name with
  | none =>
      rw [cancel, pointOf, htask]
      exact htask
  | some task =>
      rw [cancel, pointOf, htask, Option.map_some, Option.map_some]
      by_cases hpoint : task.point = .done
      · rw [hpoint, if_pos rfl]
        exact htask
      · rw [if_neg hpoint]
        split
        · contradiction
        · simp_all
        · rw [get?_rouse_eq, get?_changeTask, htask]
          simp

end LockSystem

end QuestionBoard
