import QuestionBoard.Proofs.Lock.Passage
import QuestionBoard.Proofs.Shared.Reachable

/-!
The invariant of a shared store: there is one store, which all handles open, and each call stands where
the lock has its task. A call that has not been served has its task ahead, one that has been served has it
leaving, and one that has ended has it done; only a call that was cancelled ends without a result.
-/

namespace QuestionBoard

open Lock QuestionStore

namespace QuestionStore

/-- Whether a task of the lock stands where a call that has come so far leaves it; there is no task of a
call that does not take the lock. -/
def Progress.Matches : Progress → Option Task → Prop
  | _, none => True
  | .waiting, some task => task.isAhead = true
  | .leaving _, some task => task.isLeaving = true
  | .finished _, some task => task.point = .done

theorem Progress.Matches.roused {progress : Progress} {task? : Option Task}
    (h : progress.Matches task?) :
    progress.Matches (task?.map fun task => { task with point := task.point.roused }) := by
  cases task? with
  | none => trivial
  | some task =>
      cases progress with
      | waiting => exact task.isAhead_roused.trans h
      | leaving taken => exact task.isLeaving_roused.trans h
      | finished result =>
          change task.point.roused = .done
          rw [show task.point = .done from h]
          rfl

theorem Progress.Matches.cancelled {progress : Progress} {task : Task}
    (h : progress.Matches (some task)) : progress.Matches (some { task with cancelled := true }) := by
  cases progress with
  | waiting => exact Task.isAhead_cancelled h
  | leaving taken => exact h
  | finished result => exact h

end QuestionStore

namespace SharedStore

structure CallSound (running : Option String) (s : SharedStore) (name : String) (call : Call) : Prop where
  standing : call.progress.Matches (s.lock.tasks.get? name)
  cancelled : ∀ task, s.lock.tasks.get? name = some task → task.cancelled = true →
    .cancelled name ∈ s.history
  vanished : call.progress = .finished none → .cancelled name ∈ s.history
  turn : s.lock.tasks.get? name = none → (∃ taken, call.progress = .leaving taken) →
    running = some name

/-- What holds of a shared store, for the task whose turn it is. -/
structure Sound (running : Option String) (s : SharedStore) : Prop where
  lock : LockSystem.Sound running s.lock
  calls : ∀ name call, s.calls.get? name = some call → CallSound running s name call
  ended : ∀ name, .ended name ∈ s.history →
    ∃ call result, s.calls.get? name = some call ∧ call.progress = .finished result
  store : ∃ final, s.handles.stores = [final]
  place : ∀ handle, s.handles.place handle = 0

variable {s t : SharedStore} {name other : String} {call : Call} {running running' : Option String}

/-- A call keeps its invariant while others move, and at most rouse its task. -/
theorem CallSound.keep (h : CallSound running s name call)
    (htask : t.lock.tasks.get? name = s.lock.tasks.get? name ∨
      t.lock.tasks.get? name =
        (s.lock.tasks.get? name).map fun task => { task with point := task.point.roused })
    (hhistory : ∀ happening ∈ s.history, happening ∈ t.history)
    (hrunning : running = some name → running' = some name) : CallSound running' t name call := by
  rcases htask with heq | heq
  · refine ⟨heq ▸ h.standing, ?_, fun e => hhistory _ (h.vanished e), ?_⟩
    · intro task htask hcancelled
      exact hhistory _ (h.cancelled task (heq ▸ htask) hcancelled)
    · exact fun hnone hleaving => hrunning (h.turn (heq ▸ hnone) hleaving)
  · refine ⟨heq ▸ h.standing.roused, ?_, fun e => hhistory _ (h.vanished e), ?_⟩
    · intro task htask hcancelled
      rw [heq, Option.map_eq_some_iff] at htask
      obtain ⟨task', htask', rfl⟩ := htask
      exact hhistory _ (h.cancelled task' htask' hcancelled)
    · intro hnone hleaving
      rw [heq, Option.map_eq_none_iff] at hnone
      exact hrunning (h.turn hnone hleaving)

theorem Sound.storeOf (h : Sound running s) : ∃ final, s.handles.stores = [final] ∧
    ∀ handle, s.handles.storeOf handle = final := by
  obtain ⟨final, hfinal⟩ := h.store
  refine ⟨final, hfinal, fun handle => ?_⟩
  rw [Handles.storeOf, h.place, hfinal]
  rfl

/-- The invariant after one call, and the task of its name, have moved; others are at most roused. -/
theorem Sound.moved (h : Sound running s) (name : String) (hlock : LockSystem.Sound running' t.lock)
    (hcalls : ∀ other, other ≠ name → t.calls.get? other = s.calls.get? other)
    (htasks : ∀ other, other ≠ name → t.lock.tasks.get? other = s.lock.tasks.get? other ∨
      t.lock.tasks.get? other =
        (s.lock.tasks.get? other).map fun task => { task with point := task.point.roused })
    (hrunning : ∀ other, other ≠ name → running ≠ some other)
    (hhistory : ∀ happening ∈ s.history, happening ∈ t.history)
    (hends : ∀ other, other ≠ name → .ended other ∈ t.history → .ended other ∈ s.history)
    (hcall : ∀ call, t.calls.get? name = some call → CallSound running' t name call)
    (hended : .ended name ∈ t.history →
      ∃ call result, t.calls.get? name = some call ∧ call.progress = .finished result)
    (hstore : ∃ final, t.handles.stores = [final]) (hplace : ∀ handle, t.handles.place handle = 0) :
    Sound running' t := by
  refine ⟨hlock, ?_, ?_, hstore, hplace⟩
  · intro other call hother
    by_cases hname : other = name
    · subst hname
      exact hcall call hother
    · rw [hcalls other hname] at hother
      exact (h.calls other call hother).keep (htasks other hname) hhistory
        fun e => absurd e (hrunning other hname)
  · intro other hother
    by_cases hname : other = name
    · subst hname
      exact hended hother
    · rw [hcalls other hname]
      exact h.ended other (hends other hname hother)

/-! ### A call is served -/

/-- The task of a call that is served, if it has one, is told how its block ends. -/
theorem Sound.get?_finish (h : Sound (some name) s) (hcall : s.calls.get? name = some call)
    (hwaiting : call.progress = .waiting)
    (hholding : ∀ task, s.lock.tasks.get? name = some task → task.point = .holding)
    (ended : BlockEnd) : (s.lock.finish name ended).tasks.get? name =
      (s.lock.tasks.get? name).map fun task => { task with ending := some ended } := by
  cases htask : s.lock.tasks.get? name with
  | none =>
      rw [LockSystem.finish_of_none ended htask]
      exact htask
  | some task =>
      have hahead : task.isAhead = true := by
        have := (h.calls name call hcall).standing
        rwa [hwaiting, htask] at this
      have hending : task.ending = none := by
        simp only [Task.isAhead, Bool.and_eq_true, Option.isNone_iff_eq_none] at hahead
        exact hahead.1
      exact LockSystem.get?_finish_of_holding ended htask (hholding task htask) hending

theorem Sound.serve (h : Sound (some name) s) (hcall : s.calls.get? name = some call)
    (hwaiting : call.progress = .waiting)
    (hholding : ∀ task, s.lock.tasks.get? name = some task → task.point = .holding) :
    Sound (some name) (s.serve name call) := by
  obtain ⟨final, hfinal⟩ := h.store
  have hget := h.get?_finish hcall hwaiting hholding
  unfold SharedStore.serve
  rw [outcome_on hfinal h.place]
  refine h.moved name (h.lock.finish _ _) ?_ ?_ ?_ (fun _ hmem => hmem) (fun _ _ hmem => hmem) ?_ ?_
    ⟨_, rfl⟩ h.place
  · intro other hother
    exact (OrderedMap.get?_insert ..).trans (if_neg hother)
  · intro other hother
    exact Or.inl (LockSystem.get?_finish_of_ne hother _)
  · exact fun other hother e => hother (Option.some.inj e).symm
  · intro call' hcall'
    rw [OrderedMap.get?_insert, if_pos rfl] at hcall'
    obtain rfl := Option.some.inj hcall'
    refine ⟨?_, ?_, by simp, fun _ _ => rfl⟩
    · rw [hget]
      cases htask : s.lock.tasks.get? name with
      | none => trivial
      | some task => simp [Progress.Matches, Task.isLeaving, hholding task htask]
    · intro task' htask' hcancelled
      rw [hget, Option.map_eq_some_iff] at htask'
      obtain ⟨task, htask, rfl⟩ := htask'
      exact (h.calls name call hcall).cancelled task htask hcancelled
  · intro hended
    obtain ⟨call', result, hcall', hover⟩ := h.ended name hended
    obtain rfl : call = call' := Option.some.inj (hcall.symm.trans hcall')
    rw [hwaiting] at hover
    cases hover

/-- Serving a call leaves its task where it stands. -/
theorem Sound.pointOf_advance (h : Sound (some name) s) :
    (s.advance name).lock.pointOf name = s.lock.pointOf name := by
  rcases advance_cases name s with ⟨heq, -⟩ | ⟨call, hcall, hwaiting, hholding, heq⟩
  · rw [heq]
  · rw [heq]
    change LockSystem.pointOf name (s.lock.finish name _) = s.lock.pointOf name
    unfold LockSystem.pointOf
    rw [h.get?_finish hcall hwaiting hholding, Option.map_map]
    rfl

theorem Sound.advance (h : Sound (some name) s) : Sound (some name) (s.advance name) := by
  rcases advance_cases name s with ⟨heq, -⟩ | ⟨call, hcall, hwaiting, hholding, heq⟩
  · rw [heq]
    exact h
  · rw [heq]
    exact h.serve hcall hwaiting hholding

/-! ### A call ends -/

/-- What holds when the task of a call has moved and the call may have to be closed. -/
structure TaskMoved (running running' : Option String) (name : String) (s t : SharedStore) : Prop where
  lock : LockSystem.Sound running' t.lock
  calls : t.calls = s.calls
  handles : t.handles = s.handles
  tasks : ∀ other, other ≠ name → t.lock.tasks.get? other = s.lock.tasks.get? other ∨
    t.lock.tasks.get? other =
      (s.lock.tasks.get? other).map fun task => { task with point := task.point.roused }
  turn : ∀ other, other ≠ name → running ≠ some other
  history : ∀ happening ∈ s.history, happening ∈ t.history
  ends : ∀ other, .ended other ∈ t.history → .ended other ∈ s.history
  standing : ∀ call task, s.calls.get? name = some call → t.lock.tasks.get? name = some task →
    task.point = .done ∨ call.progress.Matches (some task)
  cancelled : ∀ call task, s.calls.get? name = some call → t.lock.tasks.get? name = some task →
    task.cancelled = true → .cancelled name ∈ t.history
  gone : ∀ call, s.calls.get? name = some call → call.progress = .waiting →
    (∀ task, t.lock.tasks.get? name = some task → task.point = .done) → .cancelled name ∈ t.history

/-- A call whose task is still there, or that has ended before, is as it was. -/
theorem TaskMoved.sound_of_still (hmoved : TaskMoved running running' name s t) (h : Sound running s)
    (hstill : ∀ call, t.calls.get? name = some call → (∃ result, call.progress = .finished result) ∨
      ∃ task, t.lock.tasks.get? name = some task ∧ task.point ≠ .done) : Sound running' t := by
  refine h.moved name hmoved.lock (fun _ _ => by rw [hmoved.calls]) hmoved.tasks hmoved.turn
    hmoved.history (fun other _ => hmoved.ends other) ?_ ?_ (hmoved.handles ▸ h.store)
    (hmoved.handles ▸ h.place)
  · intro call hcall
    have hold := hmoved.calls ▸ hcall
    refine ⟨?_, fun task => hmoved.cancelled call task hold, ?_, ?_⟩
    · cases htask : t.lock.tasks.get? name with
      | none => trivial
      | some task =>
          rcases hmoved.standing call task hold htask with hpoint | hmatches
          · rcases hstill call hcall with ⟨result, hover⟩ | ⟨task', htask', hpoint'⟩
            · rw [hover]
              exact hpoint
            · rw [← Option.some.inj (htask.symm.trans htask')] at hpoint'
              exact absurd hpoint hpoint'
          · exact hmatches
    · exact fun hover => hmoved.history _ ((h.calls name call hold).vanished hover)
    · rintro hnone ⟨taken, hleaving⟩
      rcases hstill call hcall with ⟨result, hover⟩ | ⟨task, htask, _⟩
      · rw [hover] at hleaving
        cases hleaving
      · rw [hnone] at htask
        cases htask
  · intro hended
    rw [hmoved.calls]
    exact h.ended name (hmoved.ends name hended)

/-- A call whose task is done, or gone, ends with the result that it has. -/
theorem TaskMoved.sound_of_done (hmoved : TaskMoved running running' name s t) (h : Sound running s)
    (hcall : t.calls.get? name = some call) (hnot : ∀ result, call.progress ≠ .finished result)
    (hdone : ∀ task, t.lock.tasks.get? name = some task → task.point = .done) :
    Sound running' { t with
      calls := t.calls.insert name { call with progress := .finished call.progress.result }
      history := t.history ++ [.ended name] } := by
  have hold := hmoved.calls ▸ hcall
  have hget := OrderedMap.get?_insert name name
    { call with progress := .finished call.progress.result } t.calls
  rw [if_pos rfl] at hget
  refine h.moved name hmoved.lock ?_ hmoved.tasks hmoved.turn
    (fun _ hmem => List.mem_append_left _ (hmoved.history _ hmem)) ?_ ?_ (fun _ => ⟨_, _, hget, rfl⟩)
    (hmoved.handles ▸ h.store) (hmoved.handles ▸ h.place)
  · intro other hother
    rw [← hmoved.calls]
    exact (OrderedMap.get?_insert ..).trans (if_neg hother)
  · intro other hother hended
    rcases List.mem_append.mp hended with hmem | hlast
    · exact hmoved.ends other hmem
    · exact absurd (Happening.ended.inj (List.mem_singleton.mp hlast)) hother
  · intro call' hcall'
    obtain rfl := Option.some.inj (hget.symm.trans hcall')
    refine ⟨?_, ?_, ?_, by simp⟩
    · cases htask : t.lock.tasks.get? name with
      | none => trivial
      | some task => exact hdone task htask
    · intro task htask hcancel
      exact List.mem_append_left _ (hmoved.cancelled call task hold htask hcancel)
    · intro hover
      refine List.mem_append_left _ (hmoved.gone call hold ?_ hdone)
      cases hprogress : call.progress with
      | waiting => rfl
      | leaving taken => simp [hprogress, Progress.result] at hover
      | finished result => exact absurd hprogress (hnot result)

/-- The invariant after the task of a call has moved and the call has ended if its task has. -/
theorem TaskMoved.sound (hmoved : TaskMoved running running' name s t) (h : Sound running s) :
    Sound running' (t.close name) := by
  rcases close_cases name t with ⟨heq, hstill⟩ | ⟨call, hcall, hnot, hdone, heq⟩
  · rw [heq]
    exact hmoved.sound_of_still h hstill
  · rw [heq]
    exact hmoved.sound_of_done h hcall hnot hdone

/-! ### Steps -/

/-- The task of a call moves on with the call, and ends without it only if it was cancelled. -/
theorem matches_of_passes {progress : Progress} {task : Task} {point : Point}
    (h : progress.Matches (some task)) (hpasses : task.Passes point) :
    progress.Matches (some { task with point }) ∨
      point = .done ∧ (progress = .waiting → task.cancelled = true) := by
  cases progress with
  | waiting =>
      have hahead : task.isAhead = true := h
      cases hpasses with
      | ahead _ hahead' => exact Or.inl hahead'
      | givenUp _ hcancelled => exact Or.inr ⟨rfl, fun _ => hcancelled⟩
      | leaving hleaving _ =>
          rw [Task.isLeaving_of_isAhead hahead] at hleaving
          cases hleaving
      | done hdone =>
          rcases hdone with hleaving | hpoint
          · rw [Task.isLeaving_of_isAhead hahead] at hleaving
            cases hleaving
          · exact absurd hpoint (Task.point_ne_done_of_isAhead hahead)
  | leaving taken =>
      have hleaving : task.isLeaving = true := h
      cases hpasses with
      | ahead hahead _ | givenUp hahead _ =>
          rw [Task.isLeaving_of_isAhead hahead] at hleaving
          cases hleaving
      | leaving _ hleaving' => exact Or.inl hleaving'
      | done _ => exact Or.inr ⟨rfl, by simp⟩
  | finished result =>
      have hpoint : task.point = .done := h
      cases hpasses with
      | ahead hahead _ | givenUp hahead _ => exact absurd hpoint (Task.point_ne_done_of_isAhead hahead)
      | leaving hleaving _ => exact absurd hpoint (Task.point_ne_done_of_isLeaving hleaving)
      | done _ => exact Or.inl rfl

/-- What comes of the task of a call in its step, once the call has been served if it is its time. -/
theorem Sound.exists_passes (h : Sound (some name) s)
    (hready : ∀ call, s.calls.get? name = some call → call.progress = .waiting →
      ∃ task, s.lock.tasks.get? name = some task ∧ task.point ≠ .holding)
    (hcall : s.calls.get? name = some call) {task : Task}
    (htask : s.lock.tasks.get? name = some task) :
    ∃ point, (s.lock.step name).1.tasks.get? name = some { task with point } ∧
      (call.progress.Matches (some { task with point }) ∨
        point = .done ∧ (call.progress = .waiting → task.cancelled = true)) := by
  have hstanding := (h.calls name call hcall).standing
  rw [htask] at hstanding
  have hcourse : task.isAhead = true ∧ task.point ≠ .holding ∨ task.isLeaving = true ∨
      task.point = .done := by
    cases hprogress : call.progress with
    | waiting =>
        obtain ⟨task', htask', hpoint⟩ := hready call hcall hprogress
        rw [hprogress] at hstanding
        rw [← Option.some.inj (htask.symm.trans htask')] at hpoint
        exact Or.inl ⟨hstanding, hpoint⟩
    | leaving taken =>
        rw [hprogress] at hstanding
        exact Or.inr (Or.inl hstanding)
    | finished result =>
        rw [hprogress] at hstanding
        exact Or.inr (Or.inr hstanding)
  obtain ⟨point, hget, hpasses⟩ := (h.lock.steps htask).exists_passes htask hcourse
  exact ⟨point, hget, matches_of_passes hstanding hpasses⟩

/-- The invariant after a step of the lock, when a call whose time it is has been served. -/
theorem Sound.pass (h : Sound (some name) s)
    (hready : ∀ call, s.calls.get? name = some call → call.progress = .waiting →
      ∃ task, s.lock.tasks.get? name = some task ∧ task.point ≠ .holding) :
    Sound (if (s.lock.step name).2 then some name else none)
      ({ s with lock := (s.lock.step name).1 : SharedStore }.close name) := by
  -- The task after the step, and the one that it was.
  have htask : ∀ call task', s.calls.get? name = some call →
      (s.lock.step name).1.tasks.get? name = some task' →
      ∃ task, s.lock.tasks.get? name = some task ∧ task'.cancelled = task.cancelled ∧
        (call.progress.Matches (some task') ∨
          task'.point = .done ∧ (call.progress = .waiting → task.cancelled = true)) := by
    intro call task' hcall htask'
    cases htask : s.lock.tasks.get? name with
    | none =>
        rw [LockSystem.step_of_none htask, htask] at htask'
        cases htask'
    | some task =>
        obtain ⟨point, hget, hpasses⟩ := h.exists_passes hready hcall htask
        obtain rfl := Option.some.inj (hget.symm.trans htask')
        exact ⟨task, rfl, rfl, hpasses⟩
  have hmoved : TaskMoved (some name) (if (s.lock.step name).2 then some name else none) name s
      { s with lock := (s.lock.step name).1 } :=
    { lock := h.lock.step
      calls := rfl
      handles := rfl
      tasks := fun other hother => h.lock.step_get?_of_ne hother
      turn := fun other hother e => hother (Option.some.inj e).symm
      history := fun _ hmem => hmem
      ends := fun _ hmem => hmem
      standing := fun call task' hcall htask' => by
        obtain ⟨_, _, _, hmatches | hdone⟩ := htask call task' hcall htask'
        · exact Or.inr hmatches
        · exact Or.inl hdone.1
      cancelled := fun call task' hcall htask' hcancelled => by
        obtain ⟨task, hold, heq, _⟩ := htask call task' hcall htask'
        exact (h.calls name call hcall).cancelled task hold (heq ▸ hcancelled)
      gone := fun call hcall hwaiting hdone => by
        obtain ⟨task, hold, -⟩ := hready call hcall hwaiting
        obtain ⟨point, hget, hpasses⟩ := h.exists_passes hready hcall hold
        have hcancelled : task.cancelled = true := by
          rcases hpasses with hmatches | ⟨-, hcancelled⟩
          · rw [hwaiting] at hmatches
            exact absurd (hdone _ hget) (Task.point_ne_done_of_isAhead hmatches)
          · exact hcancelled hwaiting
        exact (h.calls name call hcall).cancelled task hold hcancelled }
  exact hmoved.sound h

/-! ### Commands and turns -/

theorem Sound.cancel (h : Sound none s) (name : String) : Sound none (s.cancel name) := by
  have hcancelled : Happening.cancelled name ∈ s.history ++ [.cancelled name] :=
    List.mem_append_right _ (List.mem_singleton_self _)
  have hmoved : TaskMoved none none name s
      { s with lock := s.lock.cancel name, history := s.history ++ [.cancelled name] } :=
    { lock := h.lock.perform (.cancel name) trivial
      calls := rfl
      handles := rfl
      tasks := fun other hother => Or.inl (LockSystem.get?_cancel_of_ne hother)
      turn := by simp
      history := fun _ hmem => List.mem_append_left _ hmem
      ends := fun other hended => by simpa using hended
      standing := fun call task' hcall htask' => by
        rw [LockSystem.get?_cancel, Option.map_eq_some_iff] at htask'
        obtain ⟨task, htask, rfl⟩ := htask'
        have hstanding := (h.calls name call hcall).standing
        rw [htask] at hstanding
        by_cases hpoint : task.point = .done
        · left
          rw [if_pos hpoint]
          exact hpoint
        · right
          rw [if_neg hpoint]
          exact hstanding.cancelled.roused
      cancelled := fun _ _ _ _ _ => hcancelled
      gone := fun _ _ _ _ => hcancelled }
  exact hmoved.sound h

theorem get?_enlist_of_ne (mode? : Option Mode) (lock : LockSystem) (hne : other ≠ name) :
    (enlist name mode? lock).tasks.get? other = lock.tasks.get? other := by
  cases mode? with
  | none => rfl
  | some mode => exact (OrderedMap.get?_insert ..).trans (if_neg hne)

/-- The task of a new call, if it has one, is ahead. -/
theorem isAhead_of_enlist {mode? : Option Mode} {lock : LockSystem} {task : Task}
    (hnone : lock.tasks.get? name = none) (htask : (enlist name mode? lock).tasks.get? name = some task) :
    task.isAhead = true ∧ task.cancelled = false := by
  cases mode? with
  | none =>
      change lock.tasks.get? name = some task at htask
      rw [hnone] at htask
      cases htask
  | some mode =>
      change (lock.tasks.insert name _).get? name = some task at htask
      rw [OrderedMap.get?_insert, if_pos rfl] at htask
      obtain rfl := Option.some.inj htask
      exact ⟨rfl, rfl⟩

theorem Sound.newCall (h : Sound none s) (handle : String) (operation : Operation)
    (hadmissible : s.Admissible (.call name handle operation)) :
    Sound none (s.perform (.call name handle operation)) := by
  obtain ⟨hcalls, htasks⟩ := hadmissible
  refine h.moved name ?_ ?_ ?_ (by simp) (fun _ hmem => List.mem_append_left _ hmem) ?_ ?_ ?_ h.store
    h.place
  · change LockSystem.Sound none (enlist name operation.mode? s.lock)
    cases operation.mode? with
    | some mode => exact h.lock.perform (.start name mode true) ⟨rfl, htasks⟩
    | none => exact h.lock.schedule name
  · intro other hother
    exact (OrderedMap.get?_insert ..).trans (if_neg hother)
  · exact fun other hother => Or.inl (get?_enlist_of_ne operation.mode? s.lock hother)
  · intro other _ hended
    simpa [perform] using hended
  · intro call hcall
    change (s.calls.insert name _).get? name = some call at hcall
    rw [OrderedMap.get?_insert, if_pos rfl] at hcall
    obtain rfl := Option.some.inj hcall
    refine ⟨?_, ?_, by simp, by simp⟩
    · cases hget : (s.perform (.call name handle operation)).lock.tasks.get? name with
      | none => trivial
      | some task => exact (isAhead_of_enlist htasks hget).1
    · intro task hget hcancelled
      rw [(isAhead_of_enlist htasks hget).2] at hcancelled
      cases hcancelled
  · intro hended
    have hmem : Happening.ended name ∈ s.history := by simpa [perform] using hended
    obtain ⟨call, _, hcall, _⟩ := h.ended name hmem
    rw [hcalls] at hcall
    cases hcall

/-- The invariant after a task that is no call's has changed. -/
theorem Sound.withLock (h : Sound none s) {lock : LockSystem} (hlock : LockSystem.Sound none lock)
    (hcalls : s.calls.get? name = none)
    (htasks : ∀ other, other ≠ name → lock.tasks.get? other = s.lock.tasks.get? other) :
    Sound none { s with lock } := by
  refine h.moved name hlock (fun _ _ => rfl) (fun other hother => Or.inl (htasks other hother)) (by simp)
    (fun _ hmem => hmem) (fun _ _ hmem => hmem) ?_ (h.ended name) h.store h.place
  intro call hcall
  rw [hcalls] at hcall
  cases hcall

theorem Sound.clone (h : Sound none s) (handle newHandle : String) :
    Sound none { s with handles := s.handles.clone handle newHandle } := by
  refine ⟨h.lock, fun name call hcall => (h.calls name call hcall).keep (Or.inl rfl)
    (fun _ hmem => hmem) id, h.ended, h.store, fun other => ?_⟩
  change ((s.handles.opened.insert newHandle (s.handles.place handle)).get? other).getD 0 = 0
  rw [OrderedMap.get?_insert]
  by_cases hother : other = newHandle
  · rw [if_pos hother, Option.getD_some, h.place]
  · rw [if_neg hother]
    exact h.place other

theorem Sound.perform (h : Sound none s) (command : Command) (hadmissible : s.Admissible command) :
    Sound none (s.perform command) := by
  cases command with
  | call name handle operation => exact h.newCall handle operation hadmissible
  | cancel name => exact h.cancel name
  | clone handle newHandle => exact h.clone handle newHandle
  | hold name mode =>
      refine h.withLock (h.lock.perform (.start name mode true) ⟨rfl, hadmissible.2⟩) hadmissible.1 ?_
      exact fun other hother => (OrderedMap.get?_insert ..).trans (if_neg hother)
  | release name ended =>
      refine h.withLock (h.lock.finish name ended) hadmissible ?_
      exact fun other hother => LockSystem.get?_finish_of_ne hother ended

theorem sound_start (handle : String) (store : QuestionStore) (j : Journal) :
    Sound none (start handle store j) where
  lock := LockSystem.sound_idle
  calls := by simp [start]
  ended := by simp [start]
  store := ⟨store, rfl⟩
  place other := by
    change ((OrderedMap.empty.insert handle 0).get? other).getD 0 = 0
    rw [OrderedMap.get?_insert]
    split <;> rfl

theorem Sound.takeTurn (h : Sound none s) (name : String) : Sound (some name) (s.takeTurn name) := by
  have hlock : LockSystem.Sound (some name) { s.lock with ready := s.lock.ready.erase name } :=
    ⟨h.lock.readers, h.lock.writer, h.lock.waiting, h.lock.alone, h.lock.queue, h.lock.owner,
      h.lock.block, fun other task htask _ => h.lock.rest other task htask (by simp), h.lock.point⟩
  refine ⟨hlock, fun other call hcall => ?_, h.ended, h.store, h.place⟩
  exact (h.calls other call hcall).keep (Or.inl rfl) (fun _ hmem => hmem) (by simp)

/-- Between turns no call is about to end. -/
theorem Sound.result_iff (h : Sound none s) (hcall : s.calls.get? name = some call)
    (result : Except Failure Reply) :
    call.progress.result = some result ↔ call.progress = .finished (some result) := by
  have hsound := h.calls name call hcall
  cases hprogress : call.progress with
  | waiting => simp [Progress.result]
  | finished result' => simp [Progress.result]
  | leaving taken =>
      cases htask : s.lock.tasks.get? name with
      | none => exact absurd (hsound.turn htask ⟨taken, hprogress⟩) (by simp)
      | some task =>
          have hleaving : task.isLeaving = true := by
            have := hsound.standing
            rwa [hprogress, htask] at this
          have hrest := h.lock.rest name task htask (by simp)
          unfold Task.isLeaving at hleaving
          cases hpoint : task.point <;> simp_all [Point.isRest]

end SharedStore

end QuestionBoard
