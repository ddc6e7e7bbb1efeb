import QuestionBoard.Proofs.Lock.Passage

/-!
A waiting writer goes before every reader that does not have the lock yet. While a writer waits it is
counted, so the lock admits no reader, and only a task that found the lock free takes it. `Move` lists
the moves of which runs are made, among them that a task takes the lock and never gives it back, and
that the lock is given back by whoever does not hold it; `follow` makes moves one after another, as long
as a condition holds before each. Whoever reads at the end of moves before each of which a writer waited
has been reading all the time, be it that the writer sleeps, has been roused and has not run since, or
runs.
-/

namespace QuestionBoard

namespace LockSystem

open Lock

variable {s t : LockSystem} {name : String} {task : Task} {running : Option String}
  {c c' : Option String × LockSystem}

/-! ### Runs as moves -/

/-- Whether a task that a command starts has a name of its own. -/
def Distinct (s : LockSystem) : Command → Prop
  | .start name _ _ => s.tasks.get? name = none
  | .finish _ _ | .cancel _ | .giveBack _ => True

instance (s : LockSystem) (command : Command) : Decidable (s.Distinct command) :=
  match command with
  | .start name _ _ => inferInstanceAs (Decidable (s.tasks.get? name = none))
  | .finish _ _ | .cancel _ | .giveBack _ => inferInstanceAs (Decidable True)

inductive Move
  /-- The events so far are taken off. -/
  | hear
  | command (command : Command)
  | turn (name : String)
  /-- The task whose turn it is takes a step. -/
  | step
  deriving DecidableEq

/-- What a move leads to, if it can be made. -/
def Move.next? : Move → Option String × LockSystem → Option (Option String × LockSystem)
  | .hear, (none, s) => some (none, { s with events := [] })
  | .command order, (none, s) => if s.Distinct order then some (none, s.perform order) else none
  | .turn name, (none, s) =>
    if name ∈ s.ready then some (some name, { s with ready := s.ready.erase name }) else none
  | .step, (some name, s) => some (if (s.step name).2 then some name else none, (s.step name).1)
  | _, _ => none

/-- What moves lead to one after another, if each can be made and the condition holds before it. -/
def follow (condition : LockSystem → Bool) :
    List Move → Option String × LockSystem → Option (Option String × LockSystem)
  | [], c => some c
  | move :: rest, c => if condition c.2 then (move.next? c).bind (follow condition rest) else none

/-- The ways that a move can go. -/
theorem Move.next?_induct {P : Option String → LockSystem → Prop} {move : Move}
    (hmove : move.next? c = some c')
    (hhear : ∀ s, c = (none, s) → P none { s with events := [] })
    (hcommand : ∀ s order, c = (none, s) → s.Distinct order → P none (s.perform order))
    (hturn : ∀ s name, c = (none, s) → P (some name) { s with ready := s.ready.erase name })
    (hstep : ∀ s name, c = (some name, s) →
      P (if (s.step name).2 then some name else none) (s.step name).1) : P c'.1 c'.2 := by
  obtain ⟨running, s⟩ := c
  cases running with
  | none =>
      cases move with
      | hear =>
          cases hmove
          exact hhear s rfl
      | command order =>
          rw [next?] at hmove
          split at hmove
          · next hdistinct =>
              cases hmove
              exact hcommand s order rfl hdistinct
          · cases hmove
      | turn name =>
          rw [next?] at hmove
          split at hmove
          · cases hmove
            exact hturn s name rfl
          · cases hmove
      | step => cases hmove
  | some name =>
      cases move with
      | step =>
          cases hmove
          exact hstep s name rfl
      | hear | command order | turn other => cases hmove

/-- What holds at first, and after every move before which it holds and the condition does, holds at
the end of the moves. -/
theorem follow_induct {P : Option String × LockSystem → Prop} {condition : LockSystem → Bool}
    {moves : List Move} (hmoves : follow condition moves c = some c') (h : P c)
    (hmove : ∀ (move : Move) (c c' : Option String × LockSystem), P c → condition c.2 = true →
      move.next? c = some c' → P c') : P c' := by
  induction moves generalizing c with
  | nil =>
      cases hmoves
      exact h
  | cons move rest ih =>
      rw [follow] at hmoves
      split at hmoves
      · next hcondition =>
          obtain ⟨c₁, hnext, hrest⟩ := Option.bind_eq_some_iff.mp hmoves
          exact ih hrest (hmove move c c₁ h hcondition hnext)
      · cases hmoves

/-- A command starts a task, gives the lock back, or changes what a task knows and rouses it. -/
theorem perform_induct {P : LockSystem → Prop} (h : P s) (order : Command)
    (hstart : ∀ name mode hasBlock, order = .start name mode hasBlock →
      P ({ s with tasks := s.tasks.insert name { mode, hasBlock } }.schedule name))
    (hchange : ∀ (name : String) (change : Task → Task),
      (∀ task, (change task).mode = task.mode ∧ (change task).point = task.point) →
        P (s.changeTask name change))
    (hrouse : ∀ (u : LockSystem) (name : String), P u → P (u.rouse name))
    (hgiveBack : ∀ mode, P (s.giveBack mode)) : P (s.perform order) := by
  cases order with
  | start name mode hasBlock => exact hstart name mode hasBlock rfl
  | giveBack mode => exact hgiveBack mode
  | finish name ended =>
      have htold : P (s.changeTask name fun task =>
          if task.ending.isNone then { task with ending := some ended } else task) :=
        hchange name _ fun task => by split <;> exact ⟨rfl, rfl⟩
      simp only [perform, finish, rouseInside]
      split
      · exact hrouse _ name htold
      · exact htold
  | cancel name =>
      simp only [perform, cancel]
      split
      · exact h
      · exact h
      · refine hrouse _ name (hchange name _ fun task => ?_)
        exact ⟨rfl, rfl⟩

/-! ### The guard and the waiting writers -/

/-- The part of the lock's invariant that holds however the lock is taken and given back: the writers
that wait are counted, and only the task whose turn it is owns the guard. -/
structure Guarded (running : Option String) (s : LockSystem) : Prop where
  waiting : s.waitingWriters = s.count .exclusive .waiting
  queue : s.guardQueue = []
  owner : ∀ name, s.guard = some name →
    ∃ task stage, s.tasks.get? name = some task ∧ task.point = .owningGuard stage
  rest : ∀ name task, s.tasks.get? name = some task → running ≠ some name → task.point.isRest = true
  point : ∀ name task, s.tasks.get? name = some task → s.PointSound name task.mode task.point

theorem guarded_idle : Guarded none {} where
  waiting := rfl
  queue := rfl
  owner := by simp
  rest := by simp
  point := by simp

theorem Guarded.guard_eq_none (h : Guarded (some name) s) (htask : s.tasks.get? name = some task)
    (hpoint : ∀ stage, task.point ≠ .owningGuard stage) : s.guard = none := by
  cases hguard : s.guard with
  | none => rfl
  | some owner =>
      obtain ⟨task', stage, htask', hstage⟩ := h.owner owner hguard
      by_cases howner : owner = name
      · subst howner
        obtain rfl : task = task' := Option.some.inj (htask.symm.trans htask')
        exact absurd hstage (hpoint stage)
      · have hrest := h.rest owner task' htask' fun e => howner (Option.some.inj e).symm
        simp [hstage, Point.isRest] at hrest

theorem Guarded.guard_of_owningGuard (h : Guarded running s) (htask : s.tasks.get? name = some task)
    {stage : Stage} (hpoint : task.point = .owningGuard stage) :
    s.guard = some name ∧ (stage = .take → s.admits task.mode = true) := by
  have hsound := h.point name task htask
  rw [hpoint] at hsound
  exact hsound

/-- The invariant after the task whose turn it is has moved, the count having followed it. -/
theorem Guarded.moved (h : Guarded (some name) s) (htask : s.tasks.get? name = some task) (point : Point)
    (htasks : t.tasks = s.tasks.insert name { task with point })
    (hwaiting : t.waitingWriters + task.tally .exclusive .waiting =
      s.waitingWriters + { task with point }.tally .exclusive .waiting)
    (hqueue : t.guardQueue = [])
    (howner : ∀ owner, t.guard = some owner → owner = name ∧ ∃ stage, point = .owningGuard stage)
    (hpoint : t.PointSound name task.mode point)
    (hrun : running ≠ some name → point.isRest = true) : Guarded running t := by
  have hget : ∀ other task', t.tasks.get? other = some task' →
      (other = name ∧ task' = { task with point }) ∨
        (other ≠ name ∧ s.tasks.get? other = some task' ∧ task'.point.isRest = true) := by
    intro other task' hother
    rw [htasks] at hother
    rcases OrderedMap.eq_or_get?_of_get?_insert hother with hsame | ⟨hne, hold⟩
    · exact Or.inl hsame
    · exact Or.inr ⟨hne, hold, h.rest other task' hold fun e => hne (Option.some.inj e).symm⟩
  refine ⟨?_, hqueue, ?_, ?_, ?_⟩
  · have hcount := count_insert .exclusive .waiting { task with point } htask
    have hold := h.waiting
    have hnew : t.count .exclusive .waiting =
        { s with tasks := s.tasks.insert name { task with point } }.count .exclusive .waiting := by
      simp only [count, htasks]
    omega
  · intro owner hguard
    obtain ⟨rfl, stage, hstage⟩ := howner owner hguard
    exact ⟨{ task with point }, stage, by rw [htasks, OrderedMap.get?_insert, if_pos rfl], hstage⟩
  · intro other task' hother hne
    rcases hget other task' hother with ⟨rfl, rfl⟩ | ⟨_, _, hrest⟩
    · exact hrun hne
    · exact hrest
  · intro other task' hother
    rcases hget other task' hother with ⟨rfl, rfl⟩ | ⟨_, _, hrest⟩
    · exact hpoint
    · exact pointSound_of_isRest hrest

/-- The invariant after a task that sleeps has changed within its phase. -/
theorem Guarded.changed (h : Guarded running s) (htask : s.tasks.get? name = some task) (new : Task)
    (hmode : new.mode = task.mode) (hphase : new.point.phase = task.point.phase)
    (hrest : task.point.isRest = true) (hrest' : new.point.isRest = true) :
    Guarded running { s with tasks := s.tasks.insert name new } := by
  refine ⟨?_, h.queue, ?_, ?_, ?_⟩
  · have hcount := count_insert .exclusive .waiting new htask
    have htally := tally_of_phase_eq .exclusive .waiting hmode hphase
    have hold := h.waiting
    change s.waitingWriters = _
    omega
  · intro owner hguard
    obtain ⟨task', stage, htask', hstage⟩ := h.owner owner hguard
    refine ⟨task', stage, ?_, hstage⟩
    have hne : owner ≠ name := by
      rintro rfl
      obtain rfl : task = task' := Option.some.inj (htask.symm.trans htask')
      simp [hstage, Point.isRest] at hrest
    rw [OrderedMap.get?_insert, if_neg hne, htask']
  · intro other task' hother hne
    rcases OrderedMap.eq_or_get?_of_get?_insert hother with ⟨rfl, rfl⟩ | ⟨_, hold⟩
    · exact hrest'
    · exact h.rest other task' hold hne
  · intro other task' hother
    rcases OrderedMap.eq_or_get?_of_get?_insert hother with ⟨rfl, rfl⟩ | ⟨_, hold⟩
    · exact pointSound_of_isRest hrest'
    · exact h.point other task' hold

theorem Guarded.rouse (h : Guarded running s) (name : String) : Guarded running (s.rouse name) := by
  rcases rouse_cases name s with heq | ⟨task, point, htask, hrest, hrest', hphase, heq⟩
  · rw [heq]
    exact h
  · rw [heq]
    have hmoved := h.changed htask { task with point } rfl hphase hrest hrest'
    exact ⟨hmoved.waiting, hmoved.queue, hmoved.owner, hmoved.rest, hmoved.point⟩

theorem Guarded.rouseParked (h : Guarded running s) : Guarded running s.rouseParked :=
  rouseParked_induct h fun _ name h => h.rouse name

theorem Guarded.release (h : Guarded (some name) s)
    (hrest : ∀ task, s.tasks.get? name = some task → task.point.isRest = true) : Guarded none s := by
  refine ⟨h.waiting, h.queue, h.owner, ?_, h.point⟩
  intro other task htask _
  by_cases hname : other = name
  · subst hname
    exact hrest task htask
  · exact h.rest other task htask fun e => hname (Option.some.inj e).symm

/-- The way that the next step of the task whose turn it is goes; a task that has the lock and no block
is done. -/
theorem Guarded.step_cases (h : Guarded (some name) s) (htask : s.tasks.get? name = some task) :
    s.Steps name task (s.step name).1 (s.step name).2 ∨
      task.point = .holding ∧
        s.step name = ((s.place name task .done).report (.acquired name), false) := by
  by_cases hblock : task.point = .holding ∧ task.hasBlock = false
  · right
    obtain ⟨hpoint, hnone⟩ := hblock
    refine ⟨hpoint, ?_⟩
    rw [step, htask]
    simp only [hpoint, hnone, Bool.not_false, if_true]
    rw [moveTo_eq_place .done htask]
  · left
    refine LockSystem.step_cases h.queue htask (fun hpoint => ?_) (fun stage hpoint => ?_)
      fun stage hpoint => ?_
    · simpa [hpoint] using hblock
    · exact h.guard_eq_none htask (by simp [hpoint])
    · have hsound := h.point name task htask
      rw [hpoint] at hsound
      exact hsound

/-- The invariant after the end of a task whose part the new count leaves out. -/
theorem Guarded.retired (h : Guarded (some name) s) (htask : s.tasks.get? name = some task)
    (event : Event) (readers : Int) (writer : Bool) {waitingWriters : Int}
    (hwaiting : waitingWriters + task.tally .exclusive .waiting = s.waitingWriters) :
    Guarded none ((s.recount readers writer waitingWriters).retire name task event) := by
  refine h.moved htask .done rfl ?_ h.queue (by simp [retire, place]) trivial fun _ => rfl
  rw [tally_done task .exclusive (by simp), ← hwaiting]
  exact (Int.add_zero _).symm

/-- The invariant after the end of a task that has roused all parked tasks. -/
theorem Guarded.retired_rouseParked (h : Guarded (some name) s)
    (htask : s.tasks.get? name = some task) (hrest : task.point.isRest = false) (event : Event)
    (readers : Int) (writer : Bool) {waitingWriters : Int}
    (hwaiting : waitingWriters + task.tally .exclusive .waiting = s.waitingWriters) :
    Guarded none ((s.rouseParked.recount readers writer waitingWriters).retire name task event) := by
  obtain ⟨tasks, ready, hframe⟩ := exists_rouseParked_eq s
  refine h.rouseParked.retired (get?_rouseParked htask hrest) event readers writer ?_
  rw [hwaiting, hframe]

/-- The invariant is preserved by every way that a step of the task whose turn it is can go. -/
theorem Guarded.of_steps (h : Guarded (some name) s) (htask : s.tasks.get? name = some task)
    {goesOn : Bool} (hsteps : s.Steps name task t goesOn) :
    Guarded (if goesOn then some name else none) t := by
  have hfree : ∀ {point}, task.point = point → (∀ stage, point ≠ .owningGuard stage) →
      ∀ owner, s.guard ≠ some owner := by
    rintro _ rfl hne owner
    rw [h.guard_eq_none htask hne]
    simp
  cases hsteps with
  | neverRun hpoint _ | start hpoint _ | pass _ hpoint _ | enter hpoint _ | leave _ _ hpoint _
  | stay _ hpoint _ =>
      have hguard := hfree hpoint (by simp)
      refine h.moved htask _ rfl ?_ h.queue ?_ (by simp [PointSound]) (by simp [Point.isRest])
      · simp [place, report, Task.tally, Task.isIn, hpoint, Point.phase, Stage.phase]
      · exact fun owner howner => absurd howner (hguard owner)
  | wake roused hpoint =>
      have hguard := hfree hpoint (by simp)
      refine h.moved htask _ rfl ?_ h.queue (fun owner howner => absurd howner (hguard owner)) ?_ (by simp)
      · cases task.cancelled <;> simp [place, Task.tally, Task.isIn, hpoint, Point.phase, Stage.phase]
      · cases task.cancelled <;> simp [PointSound]
  | own stage hpoint _ =>
      have hstage : stage ≠ .take := by
        have hsound := h.point name task htask
        rw [hpoint] at hsound
        exact hsound
      refine h.moved htask (.owningGuard stage) rfl ?_ h.queue ?_ ⟨rfl, fun e => absurd e hstage⟩ (by simp)
      · simp [place, Task.tally, Task.isIn, hpoint, Point.phase]
      · exact fun owner howner => ⟨(Option.some.inj howner).symm, stage, rfl⟩
  | announceShared hpoint hmode | announceExclusive hpoint hmode =>
      obtain ⟨hguard, _⟩ := h.guard_of_owningGuard htask hpoint
      refine h.moved htask (.owningGuard .test) rfl ?_ h.queue ?_ ⟨hguard, by simp⟩ (by simp)
      all_goals simp [place, Task.tally, Task.isIn, hmode, hpoint, Point.phase, Stage.phase, hguard]
  | findFree hpoint hadmits =>
      obtain ⟨hguard, _⟩ := h.guard_of_owningGuard htask hpoint
      refine h.moved htask (.owningGuard .take) rfl ?_ h.queue ?_ ⟨hguard, fun _ => hadmits⟩ (by simp)
      all_goals simp [place, Task.tally, Task.isIn, hpoint, Point.phase, Stage.phase, hguard]
  | park hpoint _ =>
      refine h.moved htask (.parked false) rfl ?_ h.queue (by simp [place]) trivial fun _ => rfl
      simp [place, Task.tally, Task.isIn, hpoint, Point.phase, Stage.phase]
  | takeShared hpoint hmode | takeExclusive hpoint hmode =>
      refine h.moved htask .holding rfl ?_ h.queue (by simp [place]) trivial (by simp)
      simp [place, Task.tally, Task.isIn, hmode, hpoint, Point.phase, Stage.phase]
  | abandonShared hpoint hmode =>
      refine h.retired htask (.cancelled name) s.readers s.writer ?_
      simp [Task.tally, Task.isIn, hmode]
  | abandonExclusive hpoint hmode =>
      refine h.retired_rouseParked htask (by rw [hpoint]; rfl) _ _ _ ?_
      simp [Task.tally, Task.isIn, hmode, hpoint, Point.phase, Stage.phase]
  | giveBackShared ended hpoint _ _ =>
      refine h.retired htask _ _ _ ?_
      simp [Task.tally, Task.isIn, hpoint, Point.phase, Stage.phase]
  | giveBackLast ended hpoint _ _ | giveBackExclusive ended hpoint _ =>
      refine h.retired_rouseParked htask (by rw [hpoint]; rfl) _ _ _ ?_
      simp [Task.tally, Task.isIn, hpoint, Point.phase, Stage.phase]
  | finished hpoint =>
      refine h.release fun task' htask' => ?_
      obtain rfl : task = task' := Option.some.inj (htask.symm.trans htask')
      rw [hpoint]
      rfl

theorem Guarded.step (h : Guarded (some name) s) :
    Guarded (if (s.step name).2 then some name else none) (s.step name).1 := by
  cases htask : s.tasks.get? name with
  | none =>
      rw [step_of_none htask]
      exact h.release (by simp [htask])
  | some task =>
      rcases h.step_cases htask with hsteps | ⟨hpoint, heq⟩
      · exact h.of_steps htask hsteps
      · rw [heq]
        have hguard := h.guard_eq_none htask (by simp [hpoint])
        refine h.moved htask .done rfl ?_ h.queue ?_ trivial fun _ => rfl
        · simp [place, report, Task.tally, Task.isIn, hpoint, Point.phase]
        · simp [place, report, hguard]

theorem Guarded.changeTask (h : Guarded none s) (name : String) (change : Task → Task)
    (hchange : ∀ task, (change task).mode = task.mode ∧ (change task).point = task.point) :
    Guarded none (s.changeTask name change) := by
  cases htask : s.tasks.get? name with
  | none =>
      rw [changeTask_of_none change htask]
      exact h
  | some task =>
      obtain ⟨hmode, hpoint⟩ := hchange task
      have hrest := h.rest name task htask (by simp)
      rw [changeTask_eq change htask]
      exact h.changed htask (change task) hmode (by rw [hpoint]) hrest (hpoint ▸ hrest)

theorem Guarded.start (h : Guarded none s) (hnew : s.tasks.get? name = none) (mode : Mode)
    (hasBlock : Bool) :
    Guarded none ({ s with tasks := s.tasks.insert name { mode, hasBlock } }.schedule name) := by
  refine ⟨?_, h.queue, ?_, ?_, ?_⟩
  · have hcount := count_insert_new .exclusive .waiting { mode, hasBlock } hnew
    have htally : Task.tally .exclusive .waiting { mode, hasBlock } = 0 := by
      simp [Task.tally, Task.isIn, Point.phase]
    rw [htally] at hcount
    exact h.waiting.trans (congrArg _ hcount.symm)
  · intro owner hguard
    obtain ⟨task, stage, htask, hstage⟩ := h.owner owner hguard
    have hrest := h.rest owner task htask (by simp)
    simp [hstage, Point.isRest] at hrest
  · intro other task hother hne
    rcases OrderedMap.eq_or_get?_of_get?_insert hother with ⟨rfl, rfl⟩ | ⟨_, hold⟩
    · rfl
    · exact h.rest other task hold hne
  · intro other task hother
    rcases OrderedMap.eq_or_get?_of_get?_insert hother with ⟨rfl, rfl⟩ | ⟨_, hold⟩
    · trivial
    · exact h.point other task hold

/-- The lock may be given back whether it is held or not: only its counts of holders change. -/
theorem Guarded.giveBack (h : Guarded none s) (mode : Mode) : Guarded none (s.giveBack mode) := by
  have hcounts : ∀ readers writer, Guarded none { s with readers, writer } := by
    intro readers writer
    refine ⟨h.waiting, h.queue, h.owner, h.rest, fun name task htask => ?_⟩
    exact pointSound_of_isRest (h.rest name task htask (by simp))
  cases mode with
  | shared =>
      simp only [LockSystem.giveBack]
      split
      · exact (hcounts _ _).rouseParked
      · exact hcounts _ _
  | exclusive => exact (hcounts _ _).rouseParked

theorem Guarded.perform (h : Guarded none s) (order : Command) (hdistinct : s.Distinct order) :
    Guarded none (s.perform order) := by
  refine perform_induct h order ?_ (fun name change hchange => h.changeTask name change hchange)
    (fun _ name h => h.rouse name) fun mode => h.giveBack mode
  rintro name mode hasBlock rfl
  exact h.start hdistinct mode hasBlock

theorem Guarded.of_next? {move : Move} (h : Guarded c.1 c.2) (hmove : move.next? c = some c') :
    Guarded c'.1 c'.2 := by
  refine Move.next?_induct hmove ?_ ?_ ?_ ?_
  · rintro s rfl
    exact ⟨h.waiting, h.queue, h.owner, h.rest, h.point⟩
  · rintro s order rfl hdistinct
    exact h.perform order hdistinct
  · rintro s name rfl
    exact ⟨h.waiting, h.queue, h.owner, fun other task htask _ => h.rest other task htask (by simp),
      h.point⟩
  · rintro s name rfl
    exact h.step

theorem guarded_of_follow {moves : List Move}
    (hmoves : follow (fun _ => true) moves (none, {}) = some c) : Guarded c.1 c.2 :=
  follow_induct (P := fun c => Guarded c.1 c.2) hmoves guarded_idle
    fun _ _ _ h _ hmove => h.of_next? hmove

/-! ### Readers -/

/-- Whether a task holds the lock in shared mode. -/
def Reads (name : String) (s : LockSystem) : Prop :=
  ∃ task, s.tasks.get? name = some task ∧ task.isIn .shared .holding = true

/-- Whether a task waits for the lock in exclusive mode, be it asleep or not. -/
def waits (name : String) (s : LockSystem) : Bool :=
  (s.tasks.get? name).any (Task.isIn .exclusive .waiting)

/-- Whether whoever reads in the second state reads in the first, and no more are counted. -/
structure NoNewReader (s t : LockSystem) : Prop where
  readers : t.readers ≤ s.readers
  reads : ∀ name, t.Reads name → s.Reads name

theorem NoNewReader.refl (s : LockSystem) : NoNewReader s s := ⟨Int.le_refl _, fun _ h => h⟩

theorem NoNewReader.trans {u : LockSystem} (h : NoNewReader s t) (h' : NoNewReader t u) :
    NoNewReader s u :=
  ⟨Int.le_trans h'.readers h.readers, fun name hname => h.reads name (h'.reads name hname)⟩

/-- One task is put in its place, or changed there. -/
theorem NoNewReader.inserted (h : NoNewReader s t) (new : Task)
    (hnew : new.isIn .shared .holding = true → s.Reads name) :
    NoNewReader s { t with tasks := t.tasks.insert name new } := by
  refine ⟨h.readers, fun other hother => ?_⟩
  obtain ⟨task, htask, hin⟩ := hother
  rcases OrderedMap.eq_or_get?_of_get?_insert htask with ⟨rfl, rfl⟩ | ⟨_, hold⟩
  · exact hnew hin
  · exact h.reads other ⟨task, hold, hin⟩

theorem NoNewReader.rouse (name : String) (s : LockSystem) : NoNewReader s (s.rouse name) := by
  rcases rouse_cases name s with heq | ⟨task, point, htask, _, _, hphase, heq⟩
  · rw [heq]
    exact .refl s
  · rw [heq]
    have hmoved : NoNewReader s { s with tasks := s.tasks.insert name { task with point } } :=
      (refl s).inserted _ fun hin => ⟨task, htask, by simpa [Task.isIn, hphase] using hin⟩
    exact ⟨hmoved.readers, hmoved.reads⟩

theorem NoNewReader.rouseParked (s : LockSystem) : NoNewReader s s.rouseParked :=
  rouseParked_induct (NoNewReader.refl s) fun u name h => h.trans (.rouse name u)

theorem NoNewReader.changeTask (name : String) (change : Task → Task) (s : LockSystem)
    (hchange : ∀ task, (change task).mode = task.mode ∧ (change task).point = task.point) :
    NoNewReader s (s.changeTask name change) := by
  cases htask : s.tasks.get? name with
  | none =>
      rw [changeTask_of_none change htask]
      exact .refl s
  | some task =>
      rw [changeTask_eq change htask]
      obtain ⟨hmode, hpoint⟩ := hchange task
      exact (refl s).inserted _ fun hin => ⟨task, htask, by simpa [Task.isIn, hmode, hpoint] using hin⟩

/-- No command gives the lock to anybody. -/
theorem NoNewReader.perform (order : Command) (s : LockSystem) : NoNewReader s (s.perform order) := by
  have hgiven : ∀ readers writer, readers ≤ s.readers → NoNewReader s { s with readers, writer } :=
    fun readers writer hle => ⟨hle, fun _ hreads => hreads⟩
  refine perform_induct (.refl s) order (fun name mode hasBlock _ => ?_)
    (fun name change hchange => .changeTask name change s hchange)
    (fun u name h => h.trans (.rouse name u)) fun mode => ?_
  · have hnew : NoNewReader s { s with tasks := s.tasks.insert name { mode, hasBlock } } :=
      (refl s).inserted _ fun hin => by simp [Task.isIn, Point.phase] at hin
    exact ⟨hnew.readers, hnew.reads⟩
  · have hless : s.readers - 1 ≤ s.readers := Int.sub_le_self s.readers (by decide)
    cases mode with
    | shared =>
        simp only [giveBack]
        split
        · exact (hgiven _ _ hless).trans (.rouseParked _)
        · exact hgiven _ _ hless
    | exclusive => exact (hgiven _ _ (Int.le_refl _)).trans (.rouseParked _)

/-! ### A writer waits -/

theorem Guarded.waitingWriters_pos {writer : String} (h : Guarded running s)
    (hwaits : s.waits writer = true) : 0 < s.waitingWriters := by
  rw [waits, Option.any_eq_true] at hwaits
  obtain ⟨task, htask, hin⟩ := hwaits
  have hcount := count_pos htask hin
  have hwaiting := h.waiting
  omega

/-- While a writer is counted, no task has found the lock free to read. -/
theorem Guarded.point_ne_take (h : Guarded running s) (hwaiting : 0 < s.waitingWriters)
    (htask : s.tasks.get? name = some task) (hmode : task.mode = .shared) :
    task.point ≠ .owningGuard .take := by
  intro hpoint
  have hsound := h.point name task htask
  rw [hpoint, hmode] at hsound
  have hadmits := hsound.2 rfl
  simp only [admits, Bool.and_eq_true, beq_iff_eq] at hadmits
  omega

/-- While a writer is counted, a task that takes a step does not come to read. -/
theorem NoNewReader.of_steps (h : Guarded (some name) s) (hwaiting : 0 < s.waitingWriters)
    (htask : s.tasks.get? name = some task) {goesOn : Bool} (hsteps : s.Steps name task t goesOn) :
    NoNewReader s t := by
  have hplace : ∀ (u : LockSystem) (point : Point), NoNewReader s u →
      ({ task with point }.isIn .shared .holding = true → task.isIn .shared .holding = true) →
      NoNewReader s (u.place name task point) :=
    fun u point hu hpoint => hu.inserted _ fun hin => ⟨task, htask, hpoint hin⟩
  have hsame : NoNewReader s s := .refl s
  have hrouse := NoNewReader.rouseParked s
  cases hsteps with
  | takeShared hpoint hmode => exact absurd hpoint (h.point_ne_take hwaiting htask hmode)
  | takeExclusive hpoint hmode =>
      exact hplace _ _ ⟨hsame.readers, hsame.reads⟩ (by simp [Task.isIn, hmode])
  | giveBackShared ended hpoint _ _ =>
      exact hplace _ _ ⟨Int.sub_le_self s.readers (by decide), hsame.reads⟩
        (by simp [Task.isIn, Point.phase])
  | giveBackLast ended hpoint _ _ =>
      exact hplace _ _ ⟨Int.sub_le_self s.readers (by decide), hrouse.reads⟩
        (by simp [Task.isIn, Point.phase])
  | abandonExclusive hpoint _ | giveBackExclusive ended hpoint _ =>
      exact hplace _ _ ⟨Int.le_refl _, hrouse.reads⟩ (by simp [Task.isIn, Point.phase])
  | finished hpoint => exact hsame
  | wake roused hpoint =>
      refine hplace _ _ ⟨hsame.readers, hsame.reads⟩ ?_
      cases task.cancelled <;> simp [Task.isIn, Point.phase, Stage.phase]
  | _ =>
      refine hplace _ _ ⟨hsame.readers, hsame.reads⟩ ?_
      simp [Task.isIn, Point.phase, Stage.phase, *]

theorem NoNewReader.step (h : Guarded (some name) s) (hwaiting : 0 < s.waitingWriters) :
    NoNewReader s (s.step name).1 := by
  cases htask : s.tasks.get? name with
  | none =>
      rw [step_of_none htask]
      exact .refl s
  | some task =>
      rcases h.step_cases htask with hsteps | ⟨hpoint, heq⟩
      · exact .of_steps h hwaiting htask hsteps
      · rw [heq]
        have hdone : NoNewReader s { s with tasks := s.tasks.insert name { task with point := .done } } :=
          (refl s).inserted _ fun hin => by simp [Task.isIn, Point.phase] at hin
        exact ⟨hdone.readers, hdone.reads⟩

/-- A move that is made while a writer waits lets nobody read who does not. -/
theorem NoNewReader.of_next? {writer : String} {move : Move} (h : Guarded c.1 c.2)
    (hwaits : c.2.waits writer = true) (hmove : move.next? c = some c') : NoNewReader c.2 c'.2 := by
  have hwaiting := h.waitingWriters_pos hwaits
  refine Move.next?_induct (P := fun _ t => NoNewReader c.2 t) hmove ?_ ?_ ?_ ?_
  · rintro s rfl
    exact ⟨Int.le_refl _, fun _ hreads => hreads⟩
  · rintro s order rfl _
    exact .perform order s
  · rintro s name rfl
    exact ⟨Int.le_refl _, fun _ hreads => hreads⟩
  · rintro s name rfl
    exact .step h hwaiting

/-- While a writer waits, nobody comes to read: at the end of any moves from the lock without tasks, and
of further moves before each of which the writer waits, no more readers are counted than before the
further moves, and whoever reads read before them. -/
theorem readers_le_of_waits (writer : String) (earlier moves : List Move)
    (hearlier : follow (fun _ => true) earlier (none, {}) = some c)
    (hmoves : follow (waits writer) moves c = some c') :
    c'.2.readers ≤ c.2.readers ∧ ∀ reader, c'.2.Reads reader → c.2.Reads reader := by
  have hkept : Guarded c'.1 c'.2 ∧ NoNewReader c.2 c'.2 := by
    refine follow_induct (P := fun c' => Guarded c'.1 c'.2 ∧ NoNewReader c.2 c'.2) hmoves
      ⟨guarded_of_follow hearlier, .refl c.2⟩ ?_
    rintro move c₁ c₂ ⟨hguarded, hkept⟩ hwaits hnext
    exact ⟨hguarded.of_next? hnext, hkept.trans (.of_next? hguarded hwaits hnext)⟩
  exact ⟨hkept.2.readers, hkept.2.reads⟩

/-- A reader that never gives the lock back itself takes it; then a writer waits for the lock, and
another reader behind the writer. -/
def approach : List Move :=
  [.command (.start "first" .shared false), .command (.start "writer" .exclusive true),
    .command (.start "second" .shared true), .turn "first", .step, .step, .step, .step, .step, .step,
    .turn "writer", .step, .step, .step, .step, .turn "second", .step, .step, .step, .step]

/-- The lock is given back, which rouses the two that are parked; the reader has its turn before the
writer, and parks again. -/
def overtaken : List Move :=
  [.command (.giveBack .shared), .turn "second", .step, .step, .step, .turn "writer", .step, .step,
    .step, .step]

/-- The writer is roused while the lock is free and the reader has its turn first, yet it is the writer
that takes the lock, and nobody reads any more. -/
theorem readers_le_overtaken : ∃ c c', follow (fun _ => true) approach (none, {}) = some c ∧
    follow (waits "writer") overtaken c = some c' ∧ c.2.readers = 1 ∧
    c.2.pointOf "second" = some (.parked false) ∧ c'.2.pointOf "writer" = some .holding ∧
    c'.2.readers ≤ c.2.readers ∧ ∀ reader, c'.2.Reads reader → c.2.Reads reader := by
  have hrun : ((follow (fun _ => true) approach (none, {})).map fun c =>
      (c.2.readers, c.2.pointOf "second")) = some (1, some (.parked false)) := by decide +kernel
  obtain ⟨c, hearlier, hbefore⟩ := Option.map_eq_some_iff.mp hrun
  obtain ⟨hreaders, hsecond⟩ := Prod.mk.inj hbefore
  have hrest : ((follow (fun _ => true) approach (none, {})).bind fun c =>
      (follow (waits "writer") overtaken c).map fun c' => c'.2.pointOf "writer") =
        some (some .holding) := by decide +kernel
  rw [hearlier, Option.bind_some, Option.map_eq_some_iff] at hrest
  obtain ⟨c', hmoves, hwriter⟩ := hrest
  obtain ⟨hle, hreads⟩ := readers_le_of_waits "writer" approach overtaken hearlier hmoves
  exact ⟨c, c', hearlier, hmoves, hreaders, hsecond, hwriter, hle, hreads⟩

end LockSystem

end QuestionBoard
