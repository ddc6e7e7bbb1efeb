import QuestionBoard.Proofs.Lock.Passage

/-!
Giving the lock back never waits. The guard is free whenever no task has its turn, so whoever asks for it
owns it with the next step, and a task that is to give the lock back does so before its turn ends. A task
inside its block that is cancelled, or told how the block ends, is to run, and its turn ends with the lock
given back.
-/

namespace QuestionBoard

namespace Lock

/-- Whether a cancelled task can not stand at a point: it is roused where it sleeps, and gives up before it
has the lock. -/
def Point.barsCancelled : Point → Bool
  | .parked false | .inside false | .holding => true
  | .wantsGuard stage | .queued stage | .owningGuard stage =>
    match stage with
    | .announce | .test | .take => true
    | .abandon | .giveBack _ => false
  | .fresh | .parked true | .inside true | .done => false

/-- Whether a task does not sleep over its cancellation or the end of its block. -/
structure Task.Heeds (task : Task) : Prop where
  cancelled : task.point.barsCancelled = true → task.cancelled = false
  ending : task.point = .inside false → task.ending = none

theorem Point.barsCancelled_of_roused {point : Point} (h : point.roused.barsCancelled = true) :
    point.barsCancelled = true := by
  cases point with
  | parked roused | inside roused => cases h
  | _ => exact h

/-- A task that rests may be cancelled: nothing keeps it from standing roused. -/
theorem Point.barsCancelled_roused {point : Point} (h : point.isRest = true) :
    point.roused.barsCancelled = false := by
  cases point with
  | fresh | parked _ | inside _ | done => rfl
  | wantsGuard _ | queued _ | owningGuard _ | holding => cases h

theorem Point.roused_ne_inside_false (point : Point) : point.roused ≠ .inside false := by
  cases point <;> simp [roused]

theorem Task.Heeds.roused {task : Task} (h : task.Heeds) :
    { task with point := task.point.roused }.Heeds :=
  ⟨fun hbars => h.cancelled (Point.barsCancelled_of_roused hbars),
    fun hpoint => absurd hpoint task.point.roused_ne_inside_false⟩

end Lock

namespace LockSystem

open Lock

variable {s t : LockSystem} {name other : String} {task : Task} {running : Option String}

/-! ### Heeding a cancellation -/

/-- Whether no task sleeps over its cancellation or the end of its block. -/
def Heeding (s : LockSystem) : Prop := ∀ name task, s.tasks.get? name = some task → task.Heeds

theorem Heeding.of_get? (h : Heeding s)
    (ht : ∀ other task, t.tasks.get? other = some task → task.Heeds ∨ s.tasks.get? other = some task) :
    Heeding t := fun other task hother => (ht other task hother).elim id (h other task)

theorem Heeding.place (h : Heeding s) (point : Point)
    (hcancelled : point.barsCancelled = true → task.cancelled = false)
    (hending : point = .inside false → task.ending = none) : Heeding (s.place name task point) := by
  refine h.of_get? fun other task' hother => ?_
  rcases OrderedMap.eq_or_get?_of_get?_insert hother with ⟨-, rfl⟩ | ⟨-, hold⟩
  · exact Or.inl ⟨hcancelled, hending⟩
  · exact Or.inr hold

theorem Heeding.rouse (h : Heeding s) (name : String) : Heeding (s.rouse name) := by
  intro other task hother
  rw [get?_rouse_eq, Option.map_eq_some_iff] at hother
  obtain ⟨task', htask', rfl⟩ := hother
  split
  · exact (h other task' htask').roused
  · exact h other task' htask'

theorem Heeding.rouseParked (h : Heeding s) : Heeding s.rouseParked :=
  rouseParked_induct h fun _ name h => h.rouse name

theorem Heeding.of_steps (h : Heeding s) (htask : s.tasks.get? name = some task) {goesOn : Bool}
    (hsteps : s.Steps name task t goesOn) : Heeding t := by
  have hheeds := h name task htask
  -- The counts and the guard are no part of what is kept.
  have hframe : ∀ {u : LockSystem}, u.tasks = s.tasks → Heeding u := fun hu name task htask =>
    h name task (hu ▸ htask)
  cases hsteps with
  | finished hpoint => exact h
  | start hpoint hcancelled => exact (hframe rfl).place _ (fun _ => hcancelled) (by simp)
  | own stage hpoint _ =>
      refine (hframe rfl).place _ (fun hbars => hheeds.cancelled ?_) (by simp)
      rw [hpoint]
      exact hbars
  | announceShared hpoint _ | announceExclusive hpoint _ | findFree hpoint _ | park hpoint _
  | takeShared hpoint _ | takeExclusive hpoint _ =>
      exact (hframe rfl).place _ (fun _ => hheeds.cancelled (by rw [hpoint]; rfl)) (by simp)
  | wake roused hpoint =>
      refine (hframe rfl).place _ ?_ (by simp)
      cases task.cancelled with
      | true => simp [Point.barsCancelled]
      | false => exact fun _ => rfl
  | enter hpoint hending =>
      exact (hframe rfl).place _ (fun _ => hheeds.cancelled (by rw [hpoint]; rfl)) fun _ => hending
  | stay roused hpoint hending =>
      obtain ⟨hcancelled, hending⟩ : task.cancelled = false ∧ task.ending = none := by
        unfold blockEnd at hending
        cases hcancelled : task.cancelled <;> simp_all
      exact (hframe rfl).place _ (fun _ => hcancelled) fun _ => hending
  | neverRun _ _ | abandonShared _ _ | giveBackShared _ _ _ _ | pass _ _ _ | leave _ _ _ _ =>
      exact (hframe rfl).place _ (by simp [Point.barsCancelled]) (by simp)
  | abandonExclusive _ _ | giveBackLast _ _ _ _ | giveBackExclusive _ _ _ =>
      exact h.rouseParked.place _ (by simp [Point.barsCancelled]) (by simp)

theorem Heeding.step (h : Heeding s) (hsound : Sound (some name) s) : Heeding (s.step name).1 := by
  cases htask : s.tasks.get? name with
  | none =>
      rw [step_of_none htask]
      exact h
  | some task => exact h.of_steps htask (hsound.steps htask)

/-- A task that is told how its block ends is roused if it sleeps in it. -/
theorem get?_finish (name : String) (ended : BlockEnd) (s : LockSystem) :
    (s.finish name ended).tasks.get? name = (s.tasks.get? name).map fun task =>
      { task with
        ending := task.ending.or (some ended)
        point := if task.point = .inside false then .inside true else task.point } := by
  have hchange : (fun task : Task => if task.ending.isNone then { task with ending := some ended } else task) =
      fun task => { task with ending := task.ending.or (some ended) } := by
    funext task
    cases hending : task.ending with
    | none => rfl
    | some ended' =>
        rw [Option.isNone_some, if_neg Bool.false_ne_true, Option.some_or, ← hending]
  rw [finish, hchange, rouseInside, pointOf, get?_changeTask]
  cases htask : s.tasks.get? name with
  | none => simp [get?_changeTask, htask]
  | some task =>
      by_cases hpoint : task.point = .inside false
      · simp [hpoint, get?_rouse_eq, get?_changeTask, htask, Point.roused]
      · simp only [Option.map_some, if_true]
        split
        · simp_all
        · simp [get?_changeTask, htask, hpoint]

theorem Heeding.perform (h : Heeding s) (hsound : Sound none s) (command : Command)
    (hadmissible : s.Admissible command) : Heeding (s.perform command) := by
  have hothers : ∀ {t : LockSystem} {name : String},
      (∀ other, other ≠ name → t.tasks.get? other = s.tasks.get? other) →
        (∀ task, t.tasks.get? name = some task → task.Heeds) → Heeding t := by
    intro t name hsame hself other task hother
    by_cases hname : other = name
    · subst hname
      exact hself task hother
    · exact h other task (hsame other hname ▸ hother)
  cases command with
  | start name mode hasBlock =>
      refine h.of_get? fun other task hother => ?_
      rcases OrderedMap.eq_or_get?_of_get?_insert hother with ⟨-, rfl⟩ | ⟨-, hold⟩
      · exact Or.inl ⟨fun _ => rfl, fun _ => rfl⟩
      · exact Or.inr hold
  | finish name ended =>
      refine hothers (fun other hne => get?_finish_of_ne hne ended) fun task htask => ?_
      rw [LockSystem.perform, get?_finish, Option.map_eq_some_iff] at htask
      obtain ⟨old, hold, rfl⟩ := htask
      have hheeds := h name old hold
      refine ⟨fun hbars => hheeds.cancelled ?_, fun hpoint => ?_⟩
      · by_cases hinside : old.point = .inside false
        · rw [hinside]
          rfl
        · rwa [if_neg hinside] at hbars
      · by_cases hinside : old.point = .inside false <;> simp_all
  | cancel name =>
      refine hothers (fun other hne => get?_cancel_of_ne hne) fun task htask => ?_
      rw [LockSystem.perform, get?_cancel, Option.map_eq_some_iff] at htask
      obtain ⟨old, hold, rfl⟩ := htask
      by_cases hdone : old.point = .done
      · rw [if_pos hdone]
        exact h name old hold
      · rw [if_neg hdone]
        -- A task is cancelled only while it rests, and there nothing bars it once it is roused.
        have hrest := hsound.rest name old hold (by simp)
        refine ⟨fun hbars => ?_, fun hpoint => absurd hpoint old.point.roused_ne_inside_false⟩
        exact absurd hbars (by simp [Point.barsCancelled_roused hrest])
  | giveBack mode => exact hadmissible.elim

theorem heeding_of_reachable (h : Reachable running s) : Heeding s := by
  induction h with
  | idle => intro name task htask; cases htask
  | heard _ ih => exact ih
  | command command hreachable hadmissible ih =>
      exact ih.perform (sound_of_reachable hreachable) command hadmissible
  | turn name _ _ ih => exact ih
  | goOn hreachable _ ih => exact ih.step (sound_of_reachable hreachable)
  | sleep hreachable _ ih => exact ih.step (sound_of_reachable hreachable)

/-! ### Giving the lock back -/

/-- What it comes to that a task gives the lock back: the task is done, and the lock is held by one fewer
in the task's mode. -/
structure GaveBack (name : String) (task : Task) (s t : LockSystem) : Prop where
  done : t.tasks.get? name = some { task with point := .done }
  shared : task.mode = .shared → t.readers = s.readers - 1 ∧ t.writer = s.writer
  exclusive : task.mode = .exclusive → t.readers = s.readers ∧ s.writer = true ∧ t.writer = false
  waiting : t.waitingWriters = s.waitingWriters
  guard : t.guard = none

/-- Giving back ends with the counts of one holder fewer, whichever tasks were roused before. -/
theorem GaveBack.retire {u : LockSystem} {readers : Int} {writer : Bool} {event : Event}
    (hshared : task.mode = .shared → readers = s.readers - 1 ∧ writer = s.writer)
    (hexclusive : task.mode = .exclusive → readers = s.readers ∧ s.writer = true ∧ writer = false) :
    GaveBack name task s ((u.recount readers writer s.waitingWriters).retire name task event) :=
  ⟨(OrderedMap.get?_insert ..).trans (if_pos rfl), hshared, hexclusive, rfl, rfl⟩

/-- A task that owns the guard to give the lock back has given it back with its next step. -/
theorem GaveBack.of_steps (h : Sound (some name) s) (htask : s.tasks.get? name = some task)
    {ended : BlockEnd} (hpoint : task.point = .owningGuard (.giveBack ended)) {goesOn : Bool}
    (hsteps : s.Steps name task t goesOn) : GaveBack name task s t ∧ goesOn = false := by
  cases hsteps with
  | giveBackShared ended' _ hmode _ | giveBackLast ended' _ hmode _ =>
      exact ⟨.retire (fun _ => ⟨rfl, rfl⟩) fun hexclusive => absurd (hmode.symm.trans hexclusive) (by simp),
        rfl⟩
  | giveBackExclusive ended' _ hmode =>
      have hin : task.isIn .exclusive .holding = true := by
        simp [Task.isIn, hmode, hpoint, Point.phase, Stage.phase]
      have hwriter := h.writer_eq_true htask hin
      exact ⟨.retire (fun hshared => absurd (hmode.symm.trans hshared) (by simp)) fun _ => ⟨rfl, hwriter, rfl⟩,
        rfl⟩
  | neverRun hother _ | start hother _ | own _ hother _ | announceShared hother _
  | announceExclusive hother _ | findFree hother _ | park hother _ | takeShared hother _
  | takeExclusive hother _ | abandonShared hother _ | abandonExclusive hother _ | wake _ hother
  | pass _ hother _ | enter hother _ | leave _ _ hother _ | stay _ hother _ | finished hother =>
      cases hpoint.symm.trans hother

/-- Whoever wants the guard in its turn owns it with its next step. -/
theorem Sound.step_of_wantsGuard (h : Sound (some name) s) (htask : s.tasks.get? name = some task)
    {stage : Stage} (hpoint : task.point = .wantsGuard stage) :
    s.step name = ({ s with guard := some name }.place name task (.owningGuard stage), true) := by
  have hguard := h.guard_eq_none htask (by simp [hpoint])
  have hmove := moveTo_eq_place (s := { s with guard := some name }) (.owningGuard stage) htask
  simp only [LockSystem.step, htask, hpoint, hguard, Option.isNone_none, if_true, hmove]

/-- A task that is to give the lock back has given it back before its turn ends. -/
theorem GaveBack.runTask (h : Reachable (some name) s) (htask : s.tasks.get? name = some task)
    {ended : BlockEnd} (hpoint : task.point = .wantsGuard (.giveBack ended)) (fuel : Nat) :
    GaveBack name task s (s.runTask name (fuel + 2)) := by
  have hown := (sound_of_reachable h).step_of_wantsGuard htask hpoint
  have howning : Reachable (some name)
      ({ s with guard := some name }.place name task (.owningGuard (.giveBack ended))) := by
    have := h.goOn (congrArg Prod.snd hown)
    rwa [hown] at this
  have hplaced : ({ s with guard := some name }.place name task
      (.owningGuard (.giveBack ended))).tasks.get? name =
        some { task with point := .owningGuard (.giveBack ended) } :=
    (OrderedMap.get?_insert ..).trans (if_pos rfl)
  have hsound := sound_of_reachable howning
  obtain ⟨hgave, hends⟩ := GaveBack.of_steps hsound hplaced rfl (hsound.steps hplaced)
  rw [runTask_succ, hown, if_pos rfl, runTask_succ, if_neg (by rw [hends]; simp)]
  exact ⟨hgave.done, hgave.shared, hgave.exclusive, hgave.waiting, hgave.guard⟩

/-- A task inside its block that is cancelled or told how the block ends is to run. -/
theorem roused_of_ended (hheeding : Heeding s) (h : Sound none s) (htask : s.tasks.get? name = some task)
    (hphase : task.point.phase = .holding) (hended : task.cancelled = true ∨ task.ending.isSome = true) :
    task.point = .inside true := by
  have hheeds := hheeding name task htask
  have hrest := h.rest name task htask (by simp)
  cases hpoint : task.point with
  | inside roused =>
      cases roused with
      | true => rfl
      | false =>
          have hcancelled := hheeds.cancelled (by rw [hpoint]; rfl)
          have hending := hheeds.ending hpoint
          simp [hcancelled, hending] at hended
  | fresh | done | parked _ => rw [hpoint] at hphase; cases hphase
  | wantsGuard _ | queued _ | owningGuard _ | holding => rw [hpoint] at hrest; cases hrest

/-- Its turn ends with the lock given back. -/
theorem GaveBack.resume (h : Reachable (some name) s) (htask : s.tasks.get? name = some task)
    (hpoint : task.point = .inside true) (hended : task.cancelled = true ∨ task.ending.isSome = true) :
    GaveBack name task s (s.resume name) := by
  obtain ⟨ended, hblockEnd⟩ : ∃ ended, blockEnd task = some ended := by
    unfold blockEnd
    cases hcancelled : task.cancelled with
    | true => exact ⟨_, rfl⟩
    | false => exact Option.isSome_iff_exists.mp (by simpa [hcancelled] using hended)
  have hleave : s.step name = (s.place name task (.wantsGuard (.giveBack ended)), true) := by
    have hmove := moveTo_eq_place (.wantsGuard (.giveBack ended)) htask
    simp only [step, htask, hpoint, hblockEnd, hmove]
  have hleaving : Reachable (some name) (s.place name task (.wantsGuard (.giveBack ended))) := by
    have := h.goOn (congrArg Prod.snd hleave)
    rwa [hleave] at this
  have hplaced : (s.place name task (.wantsGuard (.giveBack ended))).tasks.get? name =
      some { task with point := .wantsGuard (.giveBack ended) } :=
    (OrderedMap.get?_insert ..).trans (if_pos rfl)
  have hgave := GaveBack.runTask hleaving hplaced rfl 6
  rw [LockSystem.resume, stepsPerTurn, runTask_succ, hleave, if_pos rfl]
  exact ⟨hgave.done, hgave.shared, hgave.exclusive, hgave.waiting, hgave.guard⟩

/-- Between turns nobody owns the guard or queues for it, so whoever asks for it owns it with the next
step, and a task that comes to give the lock back has done so before its turn ends, cancelled or not. A
task that has the lock and is cancelled, or told how its block ends, is to run, and the lock is given back
at the end of its turn. -/
theorem guard_free_of_reachable (h : Reachable running s) :
    (running = none → s.guard = none) ∧ s.guardQueue = [] ∧
      (∀ name task stage, s.tasks.get? name = some task → task.point ≠ .queued stage ∧
        (running ≠ some name → task.point ≠ .wantsGuard stage ∧ task.point ≠ .owningGuard stage)) ∧
      (∀ name task stage, s.tasks.get? name = some task → task.point = .wantsGuard stage →
        s.step name = ({ s with guard := some name }.place name task (.owningGuard stage), true)) ∧
      (∀ name task ended fuel, s.tasks.get? name = some task →
        task.point = .wantsGuard (.giveBack ended) →
          GaveBack name task s (s.runTask name (fuel + 2)) ∧ Reachable none (s.runTask name (fuel + 2))) ∧
      (running = none → ∀ name task, s.tasks.get? name = some task → task.point.phase = .holding →
        task.cancelled = true ∨ task.ending.isSome = true →
          name ∈ s.ready ∧ GaveBack name task s ({ s with ready := s.ready.erase name }.resume name)) := by
  have hsound := sound_of_reachable h
  refine ⟨?_, hsound.queue, ?_, ?_, ?_, ?_⟩
  · rintro rfl
    cases hguard : s.guard with
    | none => rfl
    | some owner => cases hsound.guard_eq hguard
  · intro name task stage htask
    refine ⟨fun hpoint => ?_, fun hne => ⟨fun hpoint => ?_, fun hpoint => ?_⟩⟩
    · have := hsound.point name task htask
      rw [hpoint] at this
      exact this
    · exact hne (hsound.running_of_isRest htask (by rw [hpoint]; rfl))
    · exact hne (hsound.running_of_isRest htask (by rw [hpoint]; rfl))
  · intro name task stage htask hpoint
    obtain rfl := hsound.running_of_isRest htask (by rw [hpoint]; rfl)
    exact hsound.step_of_wantsGuard htask hpoint
  · intro name task ended fuel htask hpoint
    obtain rfl := hsound.running_of_isRest htask (by rw [hpoint]; rfl)
    refine ⟨GaveBack.runTask h htask hpoint fuel, reachable_runTask _ h (by omega) fun task' htask' => ?_⟩
    obtain rfl : task = task' := Option.some.inj (htask.symm.trans htask')
    rw [hpoint]
    simp [stepsLeft, stageStepsLeft]
  · rintro rfl name task htask hphase hended
    have hroused := roused_of_ended (heeding_of_reachable h) hsound htask hphase hended
    have hready := (waking_of_reachable h).ready name task htask (by simp) (by rw [hroused]; rfl)
    have hgave := GaveBack.resume (h.turn name hready) htask hroused hended
    exact ⟨hready, hgave.done, hgave.shared, hgave.exclusive, hgave.waiting, hgave.guard⟩

/-- A reader inside its block is cancelled while a writer is parked. -/
def departing : LockSystem :=
  (performAll [.start "reader" .shared true, .start "writer" .exclusive true] {}).perform (.cancel "reader")

theorem reachable_departing : Reachable none departing := by
  have hstarted := reachable_performAll [.start "reader" .shared true, .start "writer" .exclusive true] .idle
    ⟨⟨rfl, rfl⟩, ⟨rfl, rfl⟩, trivial⟩
  exact hstarted.command (.cancel "reader") trivial

/-- The reader's next turn gives the lock back. -/
theorem gaveBack_departing : Reachable none departing ∧ departing.guard = none ∧ departing.readers = 1 ∧
    ∃ task, departing.tasks.get? "reader" = some task ∧ task.cancelled = true ∧ task.point = .inside true ∧
      "reader" ∈ departing.ready ∧
        GaveBack "reader" task departing
          ({ departing with ready := departing.ready.erase "reader" }.resume "reader") := by
  obtain ⟨hguard, -, -, -, -, hgaveBack⟩ := guard_free_of_reachable reachable_departing
  have hreaders : departing.readers = 1 := by decide +kernel
  have hreader : (departing.tasks.get? "reader").map (fun task => (task.cancelled, task.point)) =
      some (true, .inside true) := by decide +kernel
  obtain ⟨task, htask, heq⟩ := Option.map_eq_some_iff.mp hreader
  obtain ⟨hcancelled, hpoint⟩ := Prod.mk.inj heq
  obtain ⟨hready, hgave⟩ := hgaveBack rfl "reader" task htask (by rw [hpoint]; rfl) (Or.inl hcancelled)
  exact ⟨reachable_departing, hguard rfl, hreaders, task, htask, hcancelled, hpoint, hready, hgave⟩

end LockSystem

end QuestionBoard
