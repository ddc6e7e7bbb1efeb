import QuestionBoard.Proofs.Lock.Safety

/-!
No wake-up is lost. A task that is parked and that nothing has roused may not have the lock as it
stands, and a step after which it might have it rouses all parked tasks: `Waking` keeps the two
together, with the rule that whatever is awake is to run. So once no task is to run, every task that is
parked is one that the lock refuses: a writer is parked only while somebody holds the lock, a reader
only while a writer holds it or is parked as well.
-/

namespace QuestionBoard

namespace Lock

/-- Whether a task that stands at a point is to run, unless it runs already. -/
def Point.isAwake : Point → Bool
  | .fresh | .parked true | .inside true => true
  | _ => false

/-- Where a task stands once it has been roused. -/
def Point.roused : Point → Point
  | .parked _ => .parked true
  | .inside _ => .inside true
  | point => point

/-- Whether a task that stands at a point is parked. -/
def Point.isParked : Point → Bool
  | .parked _ => true
  | _ => false

theorem Point.roused_roused (point : Point) : point.roused.roused = point.roused := by
  cases point <;> rfl

theorem Point.roused_ne_parked_false (point : Point) : point.roused ≠ .parked false := by
  cases point <;> simp [roused]

end Lock

namespace LockSystem

open Lock

variable {s t : LockSystem} {name : String} {task : Task} {running : Option String}

/-! ### What rousing does to a task -/

theorem rouse_of_awake (htask : s.tasks.get? name = some task)
    (h : task.point.roused = task.point) : s.rouse name = s := by
  rw [rouse, pointOf, htask, Option.map_some]
  split
  · simp_all [Point.roused]
  · simp_all [Point.roused]
  · rfl

theorem rouse_of_asleep (htask : s.tasks.get? name = some task)
    (h : task.point.roused ≠ task.point) :
    s.rouse name = (s.place name task task.point.roused).schedule name := by
  rw [rouse, pointOf, htask, Option.map_some]
  cases hpoint : task.point with
  | parked roused | inside roused =>
      cases roused with
      | true => exact absurd (by rw [hpoint]; rfl) h
      | false => simp only [moveTo_eq_place _ htask, Point.roused]
  | _ => exact absurd (by rw [hpoint]; rfl) h

theorem get?_rouse_eq (name other : String) (s : LockSystem) :
    (s.rouse name).tasks.get? other = (s.tasks.get? other).map fun task =>
      if other = name then { task with point := task.point.roused } else task := by
  cases htask : s.tasks.get? name with
  | none =>
      have hsame : s.rouse name = s := by rw [rouse, pointOf, htask]; rfl
      rw [hsame]
      by_cases hother : other = name
      · rw [hother, htask]
        rfl
      · simp [hother]
  | some task =>
      by_cases hpoint : task.point.roused = task.point
      · rw [rouse_of_awake htask hpoint]
        by_cases hother : other = name
        · subst hother
          simp [htask, hpoint]
        · simp [hother]
      · rw [rouse_of_asleep htask hpoint]
        change (s.tasks.insert name _).get? other = _
        rw [OrderedMap.get?_insert]
        by_cases hother : other = name
        · simp [hother, htask]
        · simp [hother]

theorem get?_rouseParked_eq (other : String) (s : LockSystem) :
    s.rouseParked.tasks.get? other = (s.tasks.get? other).map fun task =>
      if other ∈ s.parked then { task with point := task.point.roused } else task := by
  have hfold : ∀ (names : List String) (s : LockSystem),
      (names.foldl (fun s name => s.rouse name) s).tasks.get? other =
        (s.tasks.get? other).map fun task =>
          if other ∈ names then { task with point := task.point.roused } else task := by
    intro names
    induction names with
    | nil => intro s; simp
    | cons name rest ih =>
        intro s
        rw [List.foldl_cons, ih, get?_rouse_eq, Option.map_map]
        congr 1
        funext task
        by_cases hname : other = name <;> by_cases hrest : other ∈ rest <;>
          simp [hname, hrest, Point.roused_roused]
  exact hfold s.parked s

theorem mem_ready_rouse {other : String} (h : other ∈ s.ready) (name : String) :
    other ∈ (s.rouse name).ready := by
  rcases rouse_cases name s with heq | ⟨_, _, _, _, _, _, heq⟩
  · rw [heq]
    exact h
  · rw [heq]
    exact List.mem_append_left _ h

/-! ### The invariant -/

/-- A task that is parked and not roused is among those that a change of the lock rouses, and the lock
refuses it as it stands; a task that is awake is to run, unless it is its turn. -/
structure Waking (running : Option String) (s : LockSystem) : Prop where
  listed : ∀ name task, s.tasks.get? name = some task → task.point = .parked false → name ∈ s.parked
  refused : ∀ name task, s.tasks.get? name = some task → task.point = .parked false →
    s.admits task.mode = false
  ready : ∀ name task, s.tasks.get? name = some task → running ≠ some name →
    task.point.isAwake = true → name ∈ s.ready

theorem Waking.rouse (h : Waking running s) (name : String) : Waking running (s.rouse name) := by
  obtain ⟨tasks, ready, hframe⟩ := exists_rouse_eq name s
  have hparked : (s.rouse name).parked = s.parked := by rw [hframe]
  have hadmits : ∀ mode, (s.rouse name).admits mode = s.admits mode := by
    intro mode
    rw [hframe]
    rfl
  -- A task that stands parked and not roused after this was left as it stood.
  have hold : ∀ other task, (s.rouse name).tasks.get? other = some task → task.point = .parked false →
      s.tasks.get? other = some task := by
    intro other task hother hpoint
    rw [get?_rouse_eq, Option.map_eq_some_iff] at hother
    obtain ⟨task', htask', rfl⟩ := hother
    split at hpoint
    · exact absurd hpoint task'.point.roused_ne_parked_false
    · rename_i hne
      rw [if_neg hne, htask']
  refine ⟨?_, ?_, ?_⟩
  · intro other task hother hpoint
    rw [hparked]
    exact h.listed other task (hold other task hother hpoint) hpoint
  · intro other task hother hpoint
    rw [hadmits]
    exact h.refused other task (hold other task hother hpoint) hpoint
  · intro other task hother hrunning hawake
    rw [get?_rouse_eq, Option.map_eq_some_iff] at hother
    obtain ⟨task', htask', rfl⟩ := hother
    by_cases hname : other = name
    · subst hname
      by_cases hpoint : task'.point.roused = task'.point
      · rw [if_pos rfl] at hawake
        exact mem_ready_rouse (h.ready other task' htask' hrunning (hpoint ▸ hawake)) other
      · rw [rouse_of_asleep htask' hpoint]
        exact List.mem_append_right _ (List.mem_singleton_self other)
    · rw [if_neg hname] at hawake
      exact mem_ready_rouse (h.ready other task' htask' hrunning hawake) name

theorem Waking.rouseParked (h : Waking running s) : Waking running s.rouseParked :=
  rouseParked_induct h fun _ name h => h.rouse name

theorem Waking.point_rouseParked (h : Waking running s)
    (htask : s.rouseParked.tasks.get? name = some task) : task.point ≠ .parked false := by
  rw [get?_rouseParked_eq, Option.map_eq_some_iff] at htask
  obtain ⟨task', htask', rfl⟩ := htask
  by_cases hmem : name ∈ s.parked
  · rw [if_pos hmem]
    exact task'.point.roused_ne_parked_false
  · rw [if_neg hmem]
    exact fun hpoint => hmem (h.listed name task' htask' hpoint)

/-! ### One step -/

/-- The invariant after the task whose turn it is has moved to a point. -/
theorem Waking.moved (h : Waking (some name) s) (point : Point)
    (htasks : t.tasks = s.tasks.insert name { task with point })
    (hlisted : ∀ other, other ≠ name → other ∈ s.parked → other ∈ t.parked)
    (hready : t.ready = s.ready)
    (hrefused : ∀ other task', other ≠ name → s.tasks.get? other = some task' →
      task'.point = .parked false → t.admits task'.mode = false)
    (hparked : point = .parked false → name ∈ t.parked ∧ t.admits task.mode = false)
    (hrun : running ≠ some name → point.isAwake = false) : Waking running t := by
  have hget : ∀ other task', t.tasks.get? other = some task' →
      (other = name ∧ task' = { task with point }) ∨
        (other ≠ name ∧ s.tasks.get? other = some task') := by
    intro other task' hother
    rw [htasks] at hother
    exact OrderedMap.eq_or_get?_of_get?_insert hother
  refine ⟨?_, ?_, ?_⟩
  · intro other task' hother hpoint
    rcases hget other task' hother with ⟨rfl, rfl⟩ | ⟨hne, hold⟩
    · exact (hparked hpoint).1
    · exact hlisted other hne (h.listed other task' hold hpoint)
  · intro other task' hother hpoint
    rcases hget other task' hother with ⟨rfl, rfl⟩ | ⟨hne, hold⟩
    · exact (hparked hpoint).2
    · exact hrefused other task' hne hold hpoint
  · intro other task' hother hrunning hawake
    rcases hget other task' hother with ⟨rfl, rfl⟩ | ⟨hne, hold⟩
    · rw [hrun hrunning] at hawake
      cases hawake
    · rw [hready]
      exact h.ready other task' hold (fun e => hne (Option.some.inj e).symm) hawake

/-- The invariant after a move to a point where the task is not parked, which leaves the counts. -/
theorem Waking.moved_on (h : Waking (some name) s) (point : Point)
    (htasks : t.tasks = s.tasks.insert name { task with point })
    (hlisted : ∀ other, other ≠ name → other ∈ s.parked → other ∈ t.parked)
    (hready : t.ready = s.ready) (hadmits : ∀ mode, t.admits mode = s.admits mode)
    (hpoint : point ≠ .parked false) (hrun : running ≠ some name → point.isAwake = false) :
    Waking running t := by
  refine h.moved point htasks hlisted hready ?_ (fun e => absurd e hpoint) hrun
  intro other task' _ hother hparked
  rw [hadmits]
  exact h.refused other task' hother hparked

/-- The invariant after the end of a task that has roused all parked tasks. -/
theorem Waking.retired (h : Waking (some name) s) (readers : Int) (writer : Bool)
    (waitingWriters : Int) (event : Event) :
    Waking none ((s.rouseParked.recount readers writer waitingWriters).retire name task event) := by
  refine h.rouseParked.moved .done rfl (fun _ _ hmem => hmem) rfl ?_ (by simp) fun _ => rfl
  intro other task' _ hother hpoint
  exact absurd hpoint (h.point_rouseParked hother)

/-- The invariant once a task has had its turn. -/
theorem Waking.release (h : Waking (some name) s)
    (hpoint : ∀ task, s.tasks.get? name = some task → task.point.isAwake = false) : Waking none s := by
  refine ⟨h.listed, h.refused, ?_⟩
  intro other task htask _ hawake
  by_cases hname : other = name
  · subst hname
    rw [hpoint task htask] at hawake
    cases hawake
  · exact h.ready other task htask (fun e => hname (Option.some.inj e).symm) hawake

/-- The invariant is preserved by every way that a step of the task whose turn it is can go: the lock
starts to admit a mode only when the parked tasks have been roused, or when a writer takes it. -/
theorem Waking.of_steps (h : Waking (some name) s) (hsound : Sound (some name) s)
    (htask : s.tasks.get? name = some task) {goesOn : Bool}
    (hsteps : s.Steps name task t goesOn) : Waking (if goesOn then some name else none) t := by
  have hsame : ∀ other, other ≠ name → other ∈ s.parked → other ∈ s.parked := fun _ _ hmem => hmem
  cases hsteps with
  | neverRun | start | own | announceShared | findFree | abandonShared | pass | enter | leave | stay =>
      exact h.moved_on _ rfl hsame rfl (fun _ => rfl) (by simp) fun _ => rfl
  | announceExclusive hpoint _ =>
      refine h.moved _ rfl hsame rfl ?_ (by simp) fun _ => rfl
      intro other task' _ hother hparked
      have hrefused := h.refused other task' hother hparked
      have hwaiting := hsound.waiting
      cases hmode : task'.mode with
      | exclusive =>
          rw [hmode] at hrefused
          exact hrefused
      | shared =>
          have hcount : ¬s.waitingWriters + 1 = 0 := by omega
          simp [place, admits, hcount]
  | park hpoint hadmits =>
      refine h.moved (.parked false) rfl (fun _ _ => List.mem_append_left _) rfl ?_ ?_ fun _ => rfl
      · exact fun other task' _ hother hparked => h.refused other task' hother hparked
      · exact fun _ => ⟨List.mem_append_right _ (List.mem_singleton_self name), hadmits⟩
  | takeShared hpoint hmode =>
      refine h.moved _ rfl hsame rfl ?_ (by simp) fun _ => rfl
      intro other task' _ hother hparked
      have hrefused := h.refused other task' hother hparked
      have hreaders := hsound.readers
      cases hmode : task'.mode with
      | exclusive =>
          have hcount : ¬s.readers + 1 = 0 := by omega
          simp [place, admits, hcount]
      | shared =>
          rw [hmode] at hrefused
          exact hrefused
  | takeExclusive hpoint _ =>
      refine h.moved _ rfl hsame rfl ?_ (by simp) fun _ => rfl
      intro other task' _ _ _
      cases hmode : task'.mode <;> simp [place, admits]
  | abandonExclusive hpoint _ => exact h.retired _ _ _ _
  | giveBackShared ended hpoint _ hlast =>
      refine h.moved .done rfl hsame rfl ?_ (by simp) fun _ => rfl
      intro other task' _ hother hparked
      have hrefused := h.refused other task' hother hparked
      cases hmode : task'.mode with
      | exclusive =>
          have hcount : ¬s.readers - 1 = 0 := by omega
          simp [retire, recount, place, admits, hcount]
      | shared =>
          rw [hmode] at hrefused
          exact hrefused
  | giveBackLast ended hpoint _ _ => exact h.retired _ _ _ _
  | giveBackExclusive ended hpoint _ => exact h.retired _ _ _ _
  | wake roused hpoint =>
      refine h.moved_on _ rfl ?_ rfl (fun _ => rfl) (by simp) fun _ => rfl
      exact fun other hne hmem => (List.mem_erase_of_ne hne).mpr hmem
  | finished hpoint =>
      refine h.release fun task' htask' => ?_
      obtain rfl : task = task' := Option.some.inj (htask.symm.trans htask')
      rw [hpoint]
      rfl

/-! ### Runs -/

theorem Waking.step (h : Waking (some name) s) (hsound : Sound (some name) s) :
    Waking (if (s.step name).2 then some name else none) (s.step name).1 := by
  cases htask : s.tasks.get? name with
  | none =>
      rw [step_of_none htask]
      refine h.release fun task htask' => ?_
      rw [htask] at htask'
      cases htask'
  | some task => exact h.of_steps hsound htask (hsound.steps htask)

theorem Waking.start (h : Waking none s) (mode : Mode) :
    Waking none ({ s with tasks := s.tasks.insert name { mode, hasBlock := true } }.schedule name) := by
  refine ⟨?_, ?_, ?_⟩
  · intro other task hother hpoint
    rcases OrderedMap.eq_or_get?_of_get?_insert hother with ⟨rfl, rfl⟩ | ⟨_, hold⟩
    · cases hpoint
    · exact h.listed other task hold hpoint
  · intro other task hother hpoint
    rcases OrderedMap.eq_or_get?_of_get?_insert hother with ⟨rfl, rfl⟩ | ⟨_, hold⟩
    · cases hpoint
    · exact h.refused other task hold hpoint
  · intro other task hother hrunning hawake
    rcases OrderedMap.eq_or_get?_of_get?_insert hother with ⟨rfl, rfl⟩ | ⟨_, hold⟩
    · exact List.mem_append_right _ (List.mem_singleton_self other)
    · exact List.mem_append_left _ (h.ready other task hold hrunning hawake)

theorem Waking.changeTask (h : Waking running s) (name : String) (change : Task → Task)
    (hchange : ∀ task, (change task).mode = task.mode ∧ (change task).point = task.point) :
    Waking running (s.changeTask name change) := by
  cases htask : s.tasks.get? name with
  | none =>
      rw [changeTask_of_none change htask]
      exact h
  | some task =>
      obtain ⟨hmode, hpoint⟩ := hchange task
      rw [changeTask_eq change htask]
      refine ⟨?_, ?_, ?_⟩
      · intro other task' hother hparked
        rcases OrderedMap.eq_or_get?_of_get?_insert hother with ⟨rfl, rfl⟩ | ⟨_, hold⟩
        · exact h.listed other task htask (hpoint ▸ hparked)
        · exact h.listed other task' hold hparked
      · intro other task' hother hparked
        rcases OrderedMap.eq_or_get?_of_get?_insert hother with ⟨rfl, rfl⟩ | ⟨_, hold⟩
        · rw [hmode]
          exact h.refused other task htask (hpoint ▸ hparked)
        · exact h.refused other task' hold hparked
      · intro other task' hother hrunning hawake
        rcases OrderedMap.eq_or_get?_of_get?_insert hother with ⟨rfl, rfl⟩ | ⟨_, hold⟩
        · exact h.ready other task htask hrunning (hpoint ▸ hawake)
        · exact h.ready other task' hold hrunning hawake

theorem Waking.perform (h : Waking none s) (command : Command) (hadmissible : s.Admissible command) :
    Waking none (s.perform command) := by
  cases command with
  | start name mode hasBlock =>
      obtain ⟨rfl, -⟩ := hadmissible
      exact h.start mode
  | finish name ended =>
      have hchanged : Waking none (s.changeTask name fun task =>
          if task.ending.isNone then { task with ending := some ended } else task) :=
        h.changeTask name _ fun task => by split <;> exact ⟨rfl, rfl⟩
      simp only [LockSystem.perform, finish, rouseInside]
      split
      · exact hchanged.rouse name
      · exact hchanged
  | cancel name =>
      simp only [LockSystem.perform, cancel]
      split
      · exact h
      · exact h
      · refine Waking.rouse (h.changeTask name _ fun task => ?_) name
        exact ⟨rfl, rfl⟩
  | giveBack mode => exact hadmissible.elim

theorem waking_of_reachable (h : Reachable running s) : Waking running s := by
  induction h with
  | idle => exact ⟨by simp, by simp, by simp⟩
  | heard _ ih => exact ⟨ih.listed, ih.refused, ih.ready⟩
  | command command _ hadmissible ih => exact ih.perform command hadmissible
  | turn name _ _ ih =>
      refine ⟨ih.listed, ih.refused, ?_⟩
      intro other task hother hrunning hawake
      have hne : other ≠ name := fun e => hrunning (congrArg some e.symm)
      exact (List.mem_erase_of_ne hne).mpr (ih.ready other task hother (by simp) hawake)
  | goOn hreachable hgoesOn ih =>
      have := ih.step (sound_of_reachable hreachable)
      rwa [hgoesOn] at this
  | sleep hreachable hsleeps ih =>
      have := ih.step (sound_of_reachable hreachable)
      rwa [hsleeps] at this

/-! ### Settled locks -/

/-- Between turns, a writer that waits for the lock is parked. -/
theorem isParked_of_waiting (h : Sound none s) (htask : s.tasks.get? name = some task)
    (hphase : task.point.phase = .waiting) : task.point.isParked = true := by
  have hrest := h.rest name task htask (by simp)
  cases hpoint : task.point <;> simp_all [Point.isRest, Point.phase, Point.isParked]

theorem exists_of_count_pos {mode : Mode} {phase : Phase} (h : 0 < s.count mode phase) :
    ∃ name task, s.tasks.get? name = some task ∧ task.mode = mode ∧ task.point.phase = phase := by
  obtain ⟨task, hmem, hin⟩ := List.countP_pos_iff.mp h
  obtain ⟨⟨name, task'⟩, hentry, rfl⟩ := List.mem_map.mp hmem
  rw [Task.isIn, Bool.and_eq_true, beq_iff_eq, beq_iff_eq] at hin
  exact ⟨name, task', OrderedMap.get?_eq_some_iff.mpr hentry, hin.1, hin.2⟩

/-- The lock refuses a writer only while somebody holds it. -/
theorem Sound.exists_holding (h : Sound running s) (hadmits : s.admits .exclusive = false) :
    ∃ name task, s.tasks.get? name = some task ∧ task.point.phase = .holding := by
  have hreaders := h.readers
  have hwriter := h.writer
  have hcount : 0 < s.count .exclusive .holding ∨ 0 < s.count .shared .holding := by
    cases hheld : s.writer with
    | true =>
        rw [if_pos hheld] at hwriter
        omega
    | false =>
        have hpos : s.readers ≠ 0 := by simpa [admits, hheld] using hadmits
        omega
  rcases hcount with hpos | hpos
  · obtain ⟨name, task, htask, -, hphase⟩ := exists_of_count_pos hpos
    exact ⟨name, task, htask, hphase⟩
  · obtain ⟨name, task, htask, -, hphase⟩ := exists_of_count_pos hpos
    exact ⟨name, task, htask, hphase⟩

/-- The lock refuses a reader only while a writer holds it or waits for it. -/
theorem Sound.exists_writer (h : Sound running s) (hadmits : s.admits .shared = false) :
    ∃ name task, s.tasks.get? name = some task ∧ task.mode = .exclusive ∧
      (task.point.phase = .holding ∨ task.point.phase = .waiting) := by
  have hwriter := h.writer
  have hwaiting := h.waiting
  cases hheld : s.writer with
  | true =>
      rw [if_pos hheld] at hwriter
      obtain ⟨name, task, htask, hmode, hphase⟩ := exists_of_count_pos (hwriter ▸ Nat.one_pos)
      exact ⟨name, task, htask, hmode, Or.inl hphase⟩
  | false =>
      have hne : s.waitingWriters ≠ 0 := by simpa [admits, hheld] using hadmits
      have hpos : 0 < s.count .exclusive .waiting := by omega
      obtain ⟨name, task, htask, hmode, hphase⟩ := exists_of_count_pos hpos
      exact ⟨name, task, htask, hmode, Or.inr hphase⟩

/-- When no task is to run, the lock refuses every task that is parked. -/
theorem Waking.admits_of_settled (h : Waking none s) (hsettled : s.ready = [])
    (htask : s.tasks.get? name = some task) (hparked : task.point.isParked = true) :
    s.admits task.mode = false := by
  cases hpoint : task.point with
  | parked roused =>
      cases roused with
      | false => exact h.refused name task htask hpoint
      | true =>
          have hready := h.ready name task htask (by simp) (by rw [hpoint]; rfl)
          rw [hsettled] at hready
          cases hready
  | _ =>
      rw [hpoint] at hparked
      cases hparked

/-- When no task is to run: a writer is parked only while somebody holds the lock, a reader only while a
writer holds it or is parked; so nobody is parked while nobody holds the lock. -/
theorem parked_of_settled (h : Reachable none s) (hsettled : s.ready = []) :
    (∀ name task, s.tasks.get? name = some task → task.point.isParked = true →
      task.mode = .exclusive →
        ∃ holder task', s.tasks.get? holder = some task' ∧ task'.point.phase = .holding) ∧
      (∀ name task, s.tasks.get? name = some task → task.point.isParked = true →
        task.mode = .shared →
          ∃ writer task', s.tasks.get? writer = some task' ∧ task'.mode = .exclusive ∧
            (task'.point.phase = .holding ∨ task'.point.isParked = true)) ∧
      ((∀ name task, s.tasks.get? name = some task → task.point.phase ≠ .holding) →
        ∀ name task, s.tasks.get? name = some task → task.point.isParked = false) := by
  have hsound := sound_of_reachable h
  have hwaking := waking_of_reachable h
  have hwriters : ∀ name task, s.tasks.get? name = some task → task.point.isParked = true →
      task.mode = .exclusive →
        ∃ holder task', s.tasks.get? holder = some task' ∧ task'.point.phase = .holding := by
    intro name task htask hparked hmode
    have hadmits := hwaking.admits_of_settled hsettled htask hparked
    exact hsound.exists_holding (hmode ▸ hadmits)
  have hreaders : ∀ name task, s.tasks.get? name = some task → task.point.isParked = true →
      task.mode = .shared →
        ∃ writer task', s.tasks.get? writer = some task' ∧ task'.mode = .exclusive ∧
          (task'.point.phase = .holding ∨ task'.point.isParked = true) := by
    intro name task htask hparked hmode
    have hadmits := hwaking.admits_of_settled hsettled htask hparked
    obtain ⟨writer, task', htask', hmode', hphase⟩ := hsound.exists_writer (hmode ▸ hadmits)
    exact ⟨writer, task', htask', hmode', hphase.imp_right (isParked_of_waiting hsound htask')⟩
  refine ⟨hwriters, hreaders, fun hnobody name task htask => ?_⟩
  by_contra hparked
  rw [Bool.not_eq_false] at hparked
  -- Whoever is parked, some writer is, so somebody holds the lock after all.
  have hsomebody : ∃ holder task', s.tasks.get? holder = some task' ∧ task'.point.phase = .holding := by
    cases hmode : task.mode with
    | exclusive => exact hwriters name task htask hparked hmode
    | shared =>
        obtain ⟨writer, task', htask', hmode', hphase | hparked'⟩ := hreaders name task htask hparked hmode
        · exact ⟨writer, task', htask', hphase⟩
        · exact hwriters writer task' htask' hparked' hmode'
  obtain ⟨holder, task', htask', hphase⟩ := hsomebody
  exact hnobody holder task' htask' hphase

/-- A reader holds the lock, a writer waits for it, and another reader waits behind the writer. -/
def queued : LockSystem :=
  performAll [.start "first" .shared true, .start "writer" .exclusive true,
    .start "second" .shared true] {}

/-- The writer is parked and a reader holds the lock; the other reader is parked and a writer is. -/
theorem parked_queued : Reachable none queued ∧ queued.ready = [] ∧
    queued.pointOf "writer" = some (.parked false) ∧ queued.pointOf "second" = some (.parked false) ∧
    (∃ holder task, queued.tasks.get? holder = some task ∧ task.point.phase = .holding) ∧
    ∃ writer task, queued.tasks.get? writer = some task ∧ task.mode = .exclusive ∧
      (task.point.phase = .holding ∨ task.point.isParked = true) := by
  have hreachable : Reachable none queued :=
    reachable_performAll [.start "first" .shared true, .start "writer" .exclusive true,
      .start "second" .shared true] .idle ⟨⟨rfl, rfl⟩, ⟨rfl, rfl⟩, ⟨rfl, rfl⟩, trivial⟩
  have hsettled : queued.ready = [] := by decide +kernel
  have hwriter : (queued.tasks.get? "writer").map (fun task => (task.point, task.mode)) =
      some (.parked false, .exclusive) := by decide +kernel
  have hsecond : (queued.tasks.get? "second").map (fun task => (task.point, task.mode)) =
      some (.parked false, .shared) := by decide +kernel
  obtain ⟨hwriters, hreaders, -⟩ := parked_of_settled hreachable hsettled
  obtain ⟨writer, htask, hpoint⟩ := Option.map_eq_some_iff.mp hwriter
  obtain ⟨second, htask', hpoint'⟩ := Option.map_eq_some_iff.mp hsecond
  obtain ⟨hparked, hmode⟩ := Prod.mk.inj hpoint
  obtain ⟨hparked', hmode'⟩ := Prod.mk.inj hpoint'
  refine ⟨hreachable, hsettled, by rw [pointOf, htask, ← hparked]; rfl,
    by rw [pointOf, htask', ← hparked']; rfl, ?_, ?_⟩
  · exact hwriters "writer" writer htask (by rw [hparked]; rfl) hmode
  · exact hreaders "second" second htask' (by rw [hparked']; rfl) hmode'

/-- When the only writer that waits is cancelled, the reader behind it has the lock. -/
example : (queued.performAll [.cancel "writer"]).pointOf "second" = some (.inside false) := by
  decide +kernel

end LockSystem

end QuestionBoard
