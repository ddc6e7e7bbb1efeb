import QuestionBoard.Proofs.Lock.Steps

/-!
The invariant of the lock. In every reachable state the lock's counts are the numbers of tasks in the
phases that they stand for, and the lock is not held in both modes. Besides the counts, `Sound` keeps
the guard: only the task whose turn it is owns it, nobody queues for it, and a task that has found the
lock free still finds it free when it takes it.
-/

namespace QuestionBoard

namespace LockSystem

open Lock

/-- What holds of a task that stands at a point. -/
def PointSound (s : LockSystem) (name : String) (mode : Mode) : Point → Prop
  | .wantsGuard stage => stage ≠ .take
  | .queued _ => False
  | .owningGuard stage => s.guard = some name ∧ (stage = .take → s.admits mode = true)
  | _ => True

/-- What holds of the lock, for the task whose turn it is. -/
structure Sound (running : Option String) (s : LockSystem) : Prop where
  readers : s.readers = s.count .shared .holding
  writer : (if s.writer then 1 else 0) = s.count .exclusive .holding
  waiting : s.waitingWriters = s.count .exclusive .waiting
  alone : s.writer = true → s.readers = 0
  queue : s.guardQueue = []
  owner : ∀ name, s.guard = some name →
    ∃ task stage, s.tasks.get? name = some task ∧ task.point = .owningGuard stage
  block : ∀ name task, s.tasks.get? name = some task → task.hasBlock = true
  rest : ∀ name task, s.tasks.get? name = some task → running ≠ some name → task.point.isRest = true
  point : ∀ name task, s.tasks.get? name = some task → s.PointSound name task.mode task.point

variable {s t : LockSystem} {name : String} {task : Task} {running : Option String}

theorem pointSound_of_isRest {mode : Mode} {point : Point} (h : point.isRest = true) :
    s.PointSound name mode point := by
  cases point <;> simp_all [PointSound, Point.isRest]

theorem sound_idle : Sound none {} where
  readers := rfl
  writer := rfl
  waiting := rfl
  alone := by simp
  queue := rfl
  owner := by simp
  block := by simp
  rest := by simp
  point := by simp

/-- Whoever wants the guard, or owns it, has its turn. -/
theorem Sound.running_of_isRest (h : Sound running s) (htask : s.tasks.get? name = some task)
    (hrest : task.point.isRest = false) : running = some name := by
  by_contra hne
  rw [h.rest name task htask hne] at hrest
  cases hrest

/-- Nobody but the task whose turn it is owns the guard. -/
theorem Sound.guard_eq (h : Sound running s) {owner : String} (hguard : s.guard = some owner) :
    running = some owner := by
  obtain ⟨task, stage, htask, hpoint⟩ := h.owner owner hguard
  exact h.running_of_isRest htask (by rw [hpoint]; rfl)

theorem Sound.guard_eq_none (h : Sound (some name) s) (htask : s.tasks.get? name = some task)
    (hpoint : ∀ stage, task.point ≠ .owningGuard stage) : s.guard = none := by
  cases hguard : s.guard with
  | none => rfl
  | some owner =>
      obtain rfl := Option.some.inj (h.guard_eq hguard)
      obtain ⟨task', stage, htask', hstage⟩ := h.owner _ hguard
      rw [htask] at htask'
      exact absurd (Option.some.inj htask' ▸ hstage) (hpoint stage)

theorem Sound.readers_pos (h : Sound running s) (htask : s.tasks.get? name = some task)
    (hin : task.isIn .shared .holding = true) : 0 < s.readers := by
  have := count_pos htask hin
  have := h.readers
  omega

theorem Sound.writer_eq_true (h : Sound running s) (htask : s.tasks.get? name = some task)
    (hin : task.isIn .exclusive .holding = true) : s.writer = true := by
  by_contra hne
  have hpos := count_pos htask hin
  rw [← h.writer, if_neg hne] at hpos
  exact absurd hpos (Nat.lt_irrefl 0)

/-- The invariant after the task whose turn it is has moved, the counts having followed it. -/
theorem Sound.moved (h : Sound (some name) s) (htask : s.tasks.get? name = some task) (point : Point)
    (htasks : t.tasks = s.tasks.insert name { task with point })
    (hreaders : t.readers + task.tally .shared .holding =
      s.readers + { task with point }.tally .shared .holding)
    (hwriter : (if t.writer then 1 else 0) + task.tally .exclusive .holding =
      (if s.writer then 1 else 0) + { task with point }.tally .exclusive .holding)
    (hwaiting : t.waitingWriters + task.tally .exclusive .waiting =
      s.waitingWriters + { task with point }.tally .exclusive .waiting)
    (halone : t.writer = true → t.readers = 0) (hqueue : t.guardQueue = [])
    (howner : ∀ owner, t.guard = some owner → owner = name ∧ ∃ stage, point = .owningGuard stage)
    (hpoint : t.PointSound name task.mode point)
    (hrun : running ≠ some name → point.isRest = true) : Sound running t := by
  have hcount : ∀ mode phase, t.count mode phase + task.tally mode phase =
      s.count mode phase + { task with point }.tally mode phase := by
    intro mode phase
    rw [← count_insert mode phase { task with point } htask]
    simp only [count, htasks]
  have hget : ∀ other task', t.tasks.get? other = some task' →
      (other = name ∧ task' = { task with point }) ∨
        (other ≠ name ∧ s.tasks.get? other = some task') := by
    intro other task' hother
    rw [htasks] at hother
    exact OrderedMap.eq_or_get?_of_get?_insert hother
  have hothers : ∀ other task', other ≠ name → s.tasks.get? other = some task' →
      task'.point.isRest = true := fun other task' hne hother =>
    h.rest other task' hother fun e => hne (Option.some.inj e).symm
  constructor
  · have := hcount .shared .holding
    have := h.readers
    omega
  · have := hcount .exclusive .holding
    have := h.writer
    omega
  · have := hcount .exclusive .waiting
    have := h.waiting
    omega
  · exact halone
  · exact hqueue
  · intro owner hguard
    obtain ⟨rfl, stage, hstage⟩ := howner owner hguard
    exact ⟨{ task with point }, stage, by rw [htasks, OrderedMap.get?_insert, if_pos rfl], hstage⟩
  · intro other task' hother
    rcases hget other task' hother with ⟨rfl, rfl⟩ | ⟨_, hold⟩
    · exact h.block _ task htask
    · exact h.block _ _ hold
  · intro other task' hother hne
    rcases hget other task' hother with ⟨rfl, rfl⟩ | ⟨hne', hold⟩
    · exact hrun hne
    · exact hothers _ _ hne' hold
  · intro other task' hother
    rcases hget other task' hother with ⟨rfl, rfl⟩ | ⟨hne', hold⟩
    · exact hpoint
    · exact pointSound_of_isRest (hothers _ _ hne' hold)

/-- The invariant after a task has changed, its point at most from one rest to another of its
phase. -/
theorem Sound.changed (h : Sound running s) (htask : s.tasks.get? name = some task) (new : Task)
    (hmode : new.mode = task.mode) (hblock : new.hasBlock = task.hasBlock)
    (hpoint : new.point = task.point ∨
      task.point.isRest = true ∧ new.point.isRest = true ∧ new.point.phase = task.point.phase) :
    Sound running { s with tasks := s.tasks.insert name new } := by
  have hphase : new.point.phase = task.point.phase := by
    rcases hpoint with heq | ⟨_, _, heq⟩
    · rw [heq]
    · exact heq
  have hcount : ∀ mode phase,
      { s with tasks := s.tasks.insert name new }.count mode phase = s.count mode phase := by
    intro mode phase
    have htally := tally_of_phase_eq mode phase hmode hphase
    have := count_insert mode phase new htask
    omega
  refine ⟨?_, ?_, ?_, h.alone, h.queue, ?_, ?_, ?_, ?_⟩
  · rw [hcount]
    exact h.readers
  · rw [hcount]
    exact h.writer
  · rw [hcount]
    exact h.waiting
  · intro owner hguard
    obtain ⟨task', stage, htask', hstage⟩ := h.owner owner hguard
    by_cases heq : owner = name
    · subst heq
      obtain rfl : task = task' := Option.some.inj (htask.symm.trans htask')
      refine ⟨new, stage, by rw [OrderedMap.get?_insert, if_pos rfl], ?_⟩
      rcases hpoint with hsame | ⟨hrest, _⟩
      · rw [hsame, hstage]
      · rw [hstage] at hrest
        simp [Point.isRest] at hrest
    · exact ⟨task', stage, by rw [OrderedMap.get?_insert, if_neg heq, htask'], hstage⟩
  · intro other task' hother
    rcases OrderedMap.eq_or_get?_of_get?_insert hother with ⟨rfl, rfl⟩ | ⟨_, hold⟩
    · exact hblock.trans (h.block _ task htask)
    · exact h.block _ _ hold
  · intro other task' hother hne
    rcases OrderedMap.eq_or_get?_of_get?_insert hother with ⟨rfl, rfl⟩ | ⟨_, hold⟩
    · rcases hpoint with hsame | ⟨_, hrest, _⟩
      · rw [hsame]
        exact h.rest _ task htask hne
      · exact hrest
    · exact h.rest _ _ hold hne
  · intro other task' hother
    rcases OrderedMap.eq_or_get?_of_get?_insert hother with ⟨rfl, rfl⟩ | ⟨_, hold⟩
    · rcases hpoint with hsame | ⟨_, hrest, _⟩
      · rw [hsame, hmode]
        exact h.point _ task htask
      · exact pointSound_of_isRest hrest
    · exact h.point _ _ hold

theorem Sound.schedule (h : Sound running s) (name : String) : Sound running (s.schedule name) :=
  ⟨h.readers, h.writer, h.waiting, h.alone, h.queue, h.owner, h.block, h.rest, h.point⟩

theorem Sound.rouse (h : Sound running s) (name : String) : Sound running (s.rouse name) := by
  rcases rouse_cases name s with heq | ⟨task, point, htask, hrest, hrest', hphase, heq⟩
  · rw [heq]
    exact h
  · rw [heq]
    exact (h.changed htask { task with point } rfl rfl (Or.inr ⟨hrest, hrest', hphase⟩)).schedule name

theorem Sound.rouseParked (h : Sound running s) : Sound running s.rouseParked :=
  rouseParked_induct h fun _ name h => h.rouse name

/-! ### One step -/

/-- The invariant after a move within a phase, which changes no count. -/
theorem Sound.moved_within (h : Sound (some name) s) (htask : s.tasks.get? name = some task)
    {old : Point} (hold : task.point = old) (point : Point) (hphase : point.phase = old.phase)
    (htasks : t.tasks = s.tasks.insert name { task with point })
    (hreaders : t.readers = s.readers) (hwriter : t.writer = s.writer)
    (hwaiting : t.waitingWriters = s.waitingWriters) (hqueue : t.guardQueue = [])
    (howner : ∀ owner, t.guard = some owner → owner = name ∧ ∃ stage, point = .owningGuard stage)
    (hpoint : t.PointSound name task.mode point)
    (hrun : running ≠ some name → point.isRest = true) : Sound running t := by
  have htally : ∀ mode phase, { task with point }.tally mode phase = task.tally mode phase :=
    fun mode phase => tally_of_phase_eq mode phase rfl (hphase.trans (congrArg Point.phase hold.symm))
  refine h.moved htask point htasks ?_ ?_ ?_ ?_ hqueue howner hpoint hrun
  · rw [hreaders, htally]
  · rw [hwriter, htally]
  · rw [hwaiting, htally]
  · rw [hreaders, hwriter]
    exact h.alone

/-- The invariant once a task has had its turn. -/
theorem Sound.release (h : Sound (some name) s)
    (hrest : ∀ task, s.tasks.get? name = some task → task.point.isRest = true) : Sound none s := by
  refine ⟨h.readers, h.writer, h.waiting, h.alone, h.queue, h.owner, h.block, ?_, h.point⟩
  intro other task htask _
  by_cases heq : other = name
  · subst heq
    exact hrest task htask
  · exact h.rest other task htask fun e => heq (Option.some.inj e).symm

theorem Sound.guard_of_owningGuard (h : Sound running s) (htask : s.tasks.get? name = some task)
    {stage : Stage} (hpoint : task.point = .owningGuard stage) :
    s.guard = some name ∧ (stage = .take → s.admits task.mode = true) := by
  have := h.point name task htask
  rw [hpoint] at this
  exact this

/-- A move within a phase, after which the guard is free. -/
theorem Sound.moved_unguarded (h : Sound (some name) s) (htask : s.tasks.get? name = some task)
    {old : Point} (hold : task.point = old) (point : Point) (hphase : point.phase = old.phase)
    (htasks : t.tasks = s.tasks.insert name { task with point })
    (hreaders : t.readers = s.readers) (hwriter : t.writer = s.writer)
    (hwaiting : t.waitingWriters = s.waitingWriters) (hqueue : t.guardQueue = [])
    (hguard : t.guard = none) (hpoint : t.PointSound name task.mode point)
    (hrun : running ≠ some name → point.isRest = true) : Sound running t := by
  refine h.moved_within htask hold point hphase htasks hreaders hwriter hwaiting hqueue ?_ hpoint hrun
  intro owner howner
  rw [hguard] at howner
  cases howner

/-- The end of a task whose part the new counts leave out. -/
theorem Sound.retired (h : Sound (some name) s) (htask : s.tasks.get? name = some task) (event : Event)
    {readers waitingWriters : Int} {writer : Bool}
    (hreaders : readers + task.tally .shared .holding = s.readers)
    (hwriter : (if writer then 1 else 0) + task.tally .exclusive .holding = if s.writer then 1 else 0)
    (hwaiting : waitingWriters + task.tally .exclusive .waiting = s.waitingWriters)
    (halone : writer = true → readers = 0) :
    Sound none ((s.recount readers writer waitingWriters).retire name task event) := by
  have hholding : ∀ mode, { task with point := .done }.tally mode .holding = 0 :=
    fun mode => tally_done task mode (by simp)
  have hwaits : { task with point := .done }.tally .exclusive .waiting = 0 :=
    tally_done task .exclusive (by simp)
  refine h.moved htask .done rfl ?_ ?_ ?_ halone h.queue ?_ trivial fun _ => rfl
  · rw [hholding, ← hreaders]
    exact (Int.add_zero _).symm
  · rw [hholding, ← hwriter]
    exact (Nat.add_zero _).symm
  · rw [hwaits, ← hwaiting]
    exact (Int.add_zero _).symm
  · intro owner howner
    cases howner

/-- The invariant is preserved by every way that a step of the task whose turn it is can go. -/
theorem Sound.of_steps (h : Sound (some name) s) (htask : s.tasks.get? name = some task)
    {goesOn : Bool} (hsteps : s.Steps name task t goesOn) :
    Sound (if goesOn then some name else none) t := by
  have hfree : ∀ {point}, task.point = point → (∀ stage, point ≠ .owningGuard stage) →
      s.guard = none := by
    rintro _ rfl hne
    exact h.guard_eq_none htask hne
  cases hsteps with
  | neverRun hpoint _ =>
      have hguard := hfree hpoint (by simp)
      exact h.moved_unguarded htask hpoint .done rfl rfl rfl rfl rfl h.queue hguard trivial fun _ => rfl
  | start hpoint _ =>
      have hguard := hfree hpoint (by simp)
      exact h.moved_unguarded htask hpoint (.wantsGuard .announce) rfl rfl rfl rfl rfl h.queue hguard
        (by simp [PointSound]) (by simp)
  | own stage hpoint hguard =>
      have hstage : stage ≠ .take := by
        have := h.point name task htask
        rw [hpoint] at this
        exact this
      refine h.moved_within htask hpoint (.owningGuard stage) rfl rfl rfl rfl rfl h.queue ?_
        ⟨rfl, fun e => absurd e hstage⟩ (by simp)
      intro owner howner
      exact ⟨(Option.some.inj howner).symm, stage, rfl⟩
  | announceShared hpoint hmode =>
      obtain ⟨hguard, _⟩ := h.guard_of_owningGuard htask hpoint
      refine h.moved htask (.owningGuard .test) rfl ?_ ?_ ?_ h.alone h.queue ?_ ⟨hguard, by simp⟩ (by simp)
      all_goals simp [place, Task.tally, Task.isIn, hmode, hpoint, Point.phase, Stage.phase, hguard]
  | announceExclusive hpoint hmode =>
      obtain ⟨hguard, _⟩ := h.guard_of_owningGuard htask hpoint
      refine h.moved htask (.owningGuard .test) rfl ?_ ?_ ?_ h.alone h.queue ?_ ⟨hguard, by simp⟩ (by simp)
      all_goals simp [place, Task.tally, Task.isIn, hmode, hpoint, Point.phase, Stage.phase, hguard]
  | findFree hpoint hadmits =>
      obtain ⟨hguard, _⟩ := h.guard_of_owningGuard htask hpoint
      refine h.moved_within htask hpoint (.owningGuard .take) rfl rfl rfl rfl rfl h.queue ?_
        ⟨hguard, fun _ => hadmits⟩ (by simp)
      simp [place, hguard]
  | park hpoint hadmits =>
      exact h.moved_unguarded htask hpoint (.parked false) rfl rfl rfl rfl rfl h.queue rfl trivial
        fun _ => rfl
  | takeShared hpoint hmode =>
      obtain ⟨_, hadmits⟩ := h.guard_of_owningGuard htask hpoint
      have hwriter : s.writer = false ∧ s.waitingWriters = 0 := by
        have := hadmits rfl
        rw [hmode] at this
        simpa [admits] using this
      refine h.moved htask .holding rfl ?_ ?_ ?_ ?_ h.queue ?_ trivial (by simp)
      all_goals simp [place, Task.tally, Task.isIn, hmode, hpoint, Point.phase, Stage.phase, hwriter]
  | takeExclusive hpoint hmode =>
      obtain ⟨_, hadmits⟩ := h.guard_of_owningGuard htask hpoint
      have hfree : s.writer = false ∧ s.readers = 0 := by
        have := hadmits rfl
        rw [hmode] at this
        simpa [admits] using this
      refine h.moved htask .holding rfl ?_ ?_ ?_ ?_ h.queue ?_ trivial (by simp)
      all_goals simp [place, Task.tally, Task.isIn, hmode, hpoint, Point.phase, Stage.phase, hfree]
  | abandonShared hpoint hmode =>
      refine h.retired htask (.cancelled name) ?_ ?_ ?_ h.alone
      all_goals simp [Task.tally, Task.isIn, hmode, hpoint, Point.phase, Stage.phase]
  | abandonExclusive hpoint hmode =>
      have hrest : task.point.isRest = false := by rw [hpoint]; rfl
      obtain ⟨tasks, ready, hframe⟩ := exists_rouseParked_eq s
      refine h.rouseParked.retired (get?_rouseParked htask hrest) (.cancelled name) ?_ ?_ ?_ h.alone
      all_goals simp [hframe, Task.tally, Task.isIn, hmode, hpoint, Point.phase, Stage.phase]
  | giveBackShared ended hpoint hmode _ =>
      have halone : s.writer = true → s.readers - 1 = 0 := by
        intro hwriter
        have := h.readers_pos htask (by simp [Task.isIn, hmode, hpoint, Point.phase, Stage.phase])
        have := h.alone hwriter
        omega
      refine h.retired htask (endEvent name ended) ?_ ?_ ?_ halone
      all_goals simp [Task.tally, Task.isIn, hmode, hpoint, Point.phase, Stage.phase]
  | giveBackLast ended hpoint hmode hlast =>
      have hrest : task.point.isRest = false := by rw [hpoint]; rfl
      obtain ⟨tasks, ready, hframe⟩ := exists_rouseParked_eq s
      have halone : s.writer = true → s.readers - 1 = 0 := by
        intro _
        omega
      refine h.rouseParked.retired (get?_rouseParked htask hrest) (endEvent name ended) ?_ ?_ ?_ halone
      all_goals simp [hframe, Task.tally, Task.isIn, hmode, hpoint, Point.phase, Stage.phase]
  | giveBackExclusive ended hpoint hmode =>
      have hrest : task.point.isRest = false := by rw [hpoint]; rfl
      have hwriter := h.writer_eq_true htask
        (by simp [Task.isIn, hmode, hpoint, Point.phase, Stage.phase])
      obtain ⟨tasks, ready, hframe⟩ := exists_rouseParked_eq s
      refine h.rouseParked.retired (get?_rouseParked htask hrest) (endEvent name ended) ?_ ?_ ?_ (by simp)
      all_goals
        simp [hframe, Task.tally, Task.isIn, hmode, hpoint, Point.phase, Stage.phase, hwriter]
  | wake roused hpoint =>
      have hphase : (Point.wantsGuard (if task.cancelled then .abandon else .test)).phase =
          (Point.parked roused).phase := by
        split <;> rfl
      have hstage : (if task.cancelled then Stage.abandon else .test) ≠ .take := by
        split <;> simp
      have hguard := hfree hpoint (by simp)
      exact h.moved_unguarded htask hpoint _ hphase rfl rfl rfl rfl h.queue hguard hstage (by simp)
  | pass ended hpoint _ =>
      have hguard := hfree hpoint (by simp)
      exact h.moved_unguarded htask hpoint (.wantsGuard (.giveBack ended)) rfl rfl rfl rfl rfl h.queue
        hguard (by simp [PointSound]) (by simp)
  | enter hpoint _ =>
      have hguard := hfree hpoint (by simp)
      exact h.moved_unguarded htask hpoint (.inside false) rfl rfl rfl rfl rfl h.queue hguard trivial
        fun _ => rfl
  | leave roused ended hpoint _ =>
      have hguard := hfree hpoint (by simp)
      exact h.moved_unguarded htask hpoint (.wantsGuard (.giveBack ended)) rfl rfl rfl rfl rfl h.queue
        hguard (by simp [PointSound]) (by simp)
  | stay roused hpoint _ =>
      have hguard := hfree hpoint (by simp)
      exact h.moved_unguarded htask hpoint (.inside false) rfl rfl rfl rfl rfl h.queue hguard trivial
        fun _ => rfl
  | finished hpoint =>
      refine h.release fun task' htask' => ?_
      obtain rfl : task = task' := Option.some.inj (htask.symm.trans htask')
      rw [hpoint]
      rfl

/-! ### Runs -/

/-- The way that the next step of the task whose turn it is goes. -/
theorem Sound.steps (h : Sound (some name) s) (htask : s.tasks.get? name = some task) :
    s.Steps name task (s.step name).1 (s.step name).2 := by
  refine step_cases h.queue htask (fun _ => h.block name task htask) ?_ ?_
  · intro stage hpoint
    exact h.guard_eq_none htask (by simp [hpoint])
  · intro stage hpoint
    have := h.point name task htask
    rw [hpoint] at this
    exact this

theorem step_of_none (htask : s.tasks.get? name = none) : s.step name = (s, false) := by
  rw [step, htask]

theorem Sound.step (h : Sound (some name) s) :
    Sound (if (s.step name).2 then some name else none) (s.step name).1 := by
  cases htask : s.tasks.get? name with
  | none =>
      rw [step_of_none htask]
      refine h.release fun task htask' => ?_
      rw [htask] at htask'
      cases htask'
  | some task => exact h.of_steps htask (h.steps htask)

/-- A new task is outside, so it changes no count. -/
theorem Sound.start (h : Sound none s) (hnew : s.tasks.get? name = none) (mode : Mode) :
    Sound none ({ s with tasks := s.tasks.insert name { mode, hasBlock := true } }.schedule name) := by
  have hcount : ∀ mode' phase, phase ≠ .outside →
      { s with tasks := s.tasks.insert name { mode, hasBlock := true } }.count mode' phase =
        s.count mode' phase := by
    intro mode' phase hphase
    rw [count_insert_new mode' phase _ hnew]
    cases phase <;> simp_all [Task.tally, Task.isIn, Point.phase]
  refine Sound.schedule (s := { s with tasks := s.tasks.insert name { mode, hasBlock := true } })
    ⟨?_, ?_, ?_, h.alone, h.queue, ?_, ?_, ?_, ?_⟩ name
  · rw [hcount _ _ (by simp)]
    exact h.readers
  · rw [hcount _ _ (by simp)]
    exact h.writer
  · rw [hcount _ _ (by simp)]
    exact h.waiting
  · intro owner hguard
    exact absurd (h.guard_eq hguard) (by simp)
  · intro other task hother
    rcases OrderedMap.eq_or_get?_of_get?_insert hother with ⟨rfl, rfl⟩ | ⟨_, hold⟩
    · rfl
    · exact h.block _ _ hold
  · intro other task hother hne
    rcases OrderedMap.eq_or_get?_of_get?_insert hother with ⟨rfl, rfl⟩ | ⟨_, hold⟩
    · rfl
    · exact h.rest _ _ hold hne
  · intro other task hother
    rcases OrderedMap.eq_or_get?_of_get?_insert hother with ⟨rfl, rfl⟩ | ⟨_, hold⟩
    · trivial
    · exact h.point _ _ hold

theorem Sound.changeTask (h : Sound running s) (name : String) (change : Task → Task)
    (hchange : ∀ task, (change task).mode = task.mode ∧ (change task).hasBlock = task.hasBlock ∧
      (change task).point = task.point) : Sound running (s.changeTask name change) := by
  cases htask : s.tasks.get? name with
  | none =>
      rw [changeTask_of_none change htask]
      exact h
  | some task =>
      obtain ⟨hmode, hblock, hpoint⟩ := hchange task
      rw [changeTask_eq change htask]
      exact h.changed htask (change task) hmode hblock (Or.inl hpoint)

theorem Sound.finish (h : Sound running s) (name : String) (ended : BlockEnd) :
    Sound running (s.finish name ended) := by
  have hchanged : Sound running (s.changeTask name fun task =>
      if task.ending.isNone then { task with ending := some ended } else task) :=
    h.changeTask name _ fun task => by split <;> exact ⟨rfl, rfl, rfl⟩
  unfold LockSystem.finish rouseInside
  split
  · exact hchanged.rouse name
  · exact hchanged

theorem Sound.perform (h : Sound none s) (command : Command) (hadmissible : s.Admissible command) :
    Sound none (s.perform command) := by
  cases command with
  | start name mode hasBlock =>
      obtain ⟨rfl, hnew⟩ := hadmissible
      exact h.start hnew mode
  | finish name ended => exact h.finish name ended
  | cancel name =>
      simp only [LockSystem.perform, cancel]
      split
      · exact h
      · exact h
      · refine Sound.rouse (h.changeTask name _ fun task => ?_) name
        exact ⟨rfl, rfl, rfl⟩
  | giveBack mode => exact hadmissible.elim

theorem sound_of_reachable (h : Reachable running s) : Sound running s := by
  induction h with
  | idle => exact sound_idle
  | heard _ ih =>
      exact ⟨ih.readers, ih.writer, ih.waiting, ih.alone, ih.queue, ih.owner, ih.block, ih.rest, ih.point⟩
  | command command _ hadmissible ih => exact ih.perform command hadmissible
  | turn name _ _ ih =>
      exact ⟨ih.readers, ih.writer, ih.waiting, ih.alone, ih.queue, ih.owner, ih.block,
        fun other task htask _ => ih.rest other task htask (by simp), ih.point⟩
  | goOn _ hgoesOn ih =>
      have := ih.step
      rwa [hgoesOn] at this
  | sleep _ hsleeps ih =>
      have := ih.step
      rwa [hsleeps] at this

end LockSystem

end QuestionBoard
