import QuestionBoard.Proofs.Question.Sequence
import QuestionBoard.Proofs.Shared.Invariant

/-!
Calls on a shared store take effect one after another. However the calls wait for the lock, whichever of
them are cancelled, and whoever else holds the lock meanwhile: a call takes effect when it is served,
which is after it was made and before it ends, and the calls that were served, in this order, are a run
of their operations one at a time.
-/

namespace QuestionBoard

open Lock QuestionStore

namespace SharedStore

/-- Whether a call of an operation has a result, although it may not have ended yet. -/
def HasResult (s : SharedStore) (served : Served) : Prop :=
  ∃ call, s.calls.get? served.name = some call ∧ call.operation = served.operation ∧
    call.progress.result = some served.result

/-- An order of the calls in which they might have been made one at a time, from a store and a journal:
it has the calls that have a result, a call that ended before another was made is before it, and the
operations in this order give these results and leave what is stored and written now. -/
structure Linearization (store : QuestionStore) (j : Journal) (s : SharedStore)
    (order : List Served) : Prop where
  distinct : (order.map Served.name).Nodup
  served : ∀ served, served ∈ order ↔ s.HasResult served
  realTime : order.Pairwise fun earlier later =>
    ¬[Happening.ended later.name, .called earlier.name].Sublist s.history
  replays : ∃ final, (∀ handle, s.handles.storeOf handle = final) ∧ Replays order store j final s.journal

variable {s t : SharedStore} {name : String} {call : Call} {running : Option String}
  {order : List Served} {store : QuestionStore} {j : Journal} {handle : String}

/-- An order is one of the calls still, when nothing has changed but what has no result. -/
theorem Linearization.kept (h : Linearization store j s order)
    (hresults : ∀ served, t.HasResult served ↔ s.HasResult served)
    (hhistory : ∀ earlier ∈ order, ∀ later : Served,
      [Happening.ended later.name, .called earlier.name].Sublist t.history →
        [Happening.ended later.name, .called earlier.name].Sublist s.history)
    (hhandles : ∀ handle, t.handles.storeOf handle = s.handles.storeOf handle)
    (hjournal : t.journal = s.journal) : Linearization store j t order := by
  refine ⟨h.distinct, fun served => (h.served served).trans (hresults served).symm, ?_, ?_⟩
  · refine h.realTime.imp_of_mem ?_
    intro earlier later hearlier _ hbefore hsublist
    exact hbefore (hhistory earlier hearlier later hsublist)
  · obtain ⟨final, hfinal, hreplays⟩ := h.replays
    refine ⟨final, fun handle => (hhandles handle).trans (hfinal handle), ?_⟩
    rw [hjournal]
    exact hreplays

/-- What has happened last is no call, so it does not come after any end. -/
theorem sublist_of_concat {a b c : Happening} {history : List Happening}
    (h : [a, b].Sublist (history ++ [c])) (hne : b ≠ c) : [a, b].Sublist history := by
  have hreverse : [b, a].Sublist (c :: history.reverse) := by
    have := h.reverse
    rwa [List.reverse_append] at this
  rcases List.sublist_cons_iff.mp hreverse with hsublist | ⟨_, heq, _⟩
  · exact List.reverse_sublist.mp hsublist
  · exact absurd (List.cons.inj heq).1 hne

theorem hasResult_insert {new : Call} (hcall : s.calls.get? name = some call)
    (htcalls : t.calls = s.calls.insert name new) (hoperation : new.operation = call.operation)
    (hresult : new.progress.result = call.progress.result) (served : Served) :
    t.HasResult served ↔ s.HasResult served := by
  unfold HasResult
  rw [htcalls]
  by_cases hname : served.name = name
  · rw [hname, OrderedMap.get?_insert, if_pos rfl, hcall]
    simp [hoperation, hresult]
  · rw [OrderedMap.get?_insert, if_neg hname]

/-- A call that waits has no place in the order yet. -/
theorem Linearization.name_ne (hl : Linearization store j s order)
    (hcall : s.calls.get? name = some call) (hwaiting : call.progress = .waiting) :
    ∀ served ∈ order, served.name ≠ name := by
  rintro served hmem rfl
  obtain ⟨call', hcall', -, hresult⟩ := (hl.served served).mp hmem
  obtain rfl : call = call' := Option.some.inj (hcall.symm.trans hcall')
  rw [hwaiting] at hresult
  cases hresult

/-- A call takes effect when it is served. -/
theorem Linearization.serve (hl : Linearization store j s order) (h : Sound (some name) s)
    (hcall : s.calls.get? name = some call) (hwaiting : call.progress = .waiting) :
    ∃ result, Linearization store j (s.serve name call) (order ++ [⟨name, call.operation, result⟩]) := by
  obtain ⟨final, hstore, hfinal⟩ := h.storeOf
  obtain ⟨final', hfinal', hreplays⟩ := hl.replays
  obtain rfl : final = final' := (hfinal call.handle).symm.trans (hfinal' call.handle)
  have hne := hl.name_ne hcall hwaiting
  have hrun := call.operation.outcome_run_eq final s.journal
  have hresult : ∀ served : Served, served.name = name →
      ((s.serve name call).HasResult served ↔ call.operation = served.operation ∧
        (call.operation.run.outcome final s.journal).result = served.result) := by
    intro served hname
    unfold SharedStore.serve HasResult
    rw [outcome_on hstore h.place, hrun, hname, OrderedMap.get?_insert, if_pos rfl]
    simp [Progress.result]
  have hothers : ∀ served : Served, served.name ≠ name →
      ((s.serve name call).HasResult served ↔ s.HasResult served) := by
    intro served hname
    unfold SharedStore.serve HasResult
    rw [OrderedMap.get?_insert, if_neg hname]
  refine ⟨(call.operation.run.outcome final s.journal).result, ?_, ?_, ?_, ?_⟩
  · rw [List.map_append, List.map_singleton, ← List.concat_eq_append]
    refine hl.distinct.concat fun hmem => ?_
    obtain ⟨served, hserved, heq⟩ := List.mem_map.mp hmem
    exact hne served hserved heq
  · intro served
    rw [List.mem_append, List.mem_singleton]
    by_cases hname : served.name = name
    · rw [hresult served hname]
      constructor
      · rintro (hmem | rfl)
        · exact absurd hname (hne served hmem)
        · exact ⟨rfl, rfl⟩
      · rintro ⟨hoperation, heq⟩
        right
        cases served
        cases hname
        cases hoperation
        cases heq
        rfl
    · rw [hothers served hname, ← hl.served served]
      refine or_iff_left ?_
      rintro rfl
      exact hname rfl
  · refine List.pairwise_append.mpr ⟨hl.realTime, List.pairwise_singleton .., ?_⟩
    intro earlier _ later hlater hsublist
    rw [List.mem_singleton.mp hlater] at hsublist
    have hended : Happening.ended name ∈ s.history := hsublist.subset List.mem_cons_self
    obtain ⟨call', result, hcall', hover⟩ := h.ended name hended
    obtain rfl : call = call' := Option.some.inj (hcall.symm.trans hcall')
    rw [hwaiting] at hover
    cases hover
  · refine ⟨(call.operation.run.outcome final s.journal).state, ?_, ?_⟩
    · intro handle
      unfold SharedStore.serve
      rw [outcome_on hstore h.place, hrun]
      change ([_][s.handles.place handle]?).getD QuestionStore.empty = _
      rw [h.place]
      rfl
    · have hconcat := hreplays.concat name call.operation
      unfold SharedStore.serve
      rw [outcome_on hstore h.place]
      rw [hrun] at hconcat ⊢
      exact hconcat

theorem Linearization.close (hl : Linearization store j s order) (name : String) :
    Linearization store j (s.close name) order := by
  rcases close_cases name s with ⟨heq, -⟩ | ⟨call, hcall, hnot, -, heq⟩
  · rw [heq]
    exact hl
  · rw [heq]
    refine hl.kept (hasResult_insert hcall rfl rfl rfl) ?_ (fun _ => rfl) rfl
    exact fun _ _ _ hsublist => sublist_of_concat hsublist (by simp)

/-! ### Runs -/

theorem Sound.step (h : Sound (some name) s) (hl : Linearization store j s order) :
    Sound (if (s.step name).2 then some name else none) (s.step name).1 ∧
      ∃ order, Linearization store j (s.step name).1 order := by
  have hlock : ∀ {u : SharedStore} {order : List Served}, Linearization store j u order →
      Linearization store j { u with lock := (u.lock.step name).1 } order :=
    fun hu => hu.kept (fun _ => Iff.rfl) (fun _ _ _ hsublist => hsublist) (fun _ => rfl) rfl
  rcases advance_cases name s with ⟨heq, hready⟩ | ⟨call, hcall, hwaiting, hholding, heq⟩
  · unfold SharedStore.step
    rw [heq]
    exact ⟨h.pass hready, order, (hlock hl).close name⟩
  · unfold SharedStore.step
    rw [heq]
    obtain ⟨result, hserved⟩ := hl.serve h hcall hwaiting
    refine ⟨(h.serve hcall hwaiting hholding).pass ?_, _, (hlock hserved).close name⟩
    intro call' hcall' hwaiting'
    have hnew : (s.serve name call).calls.get? name = some { call with progress := _ } :=
      (OrderedMap.get?_insert ..).trans (if_pos rfl)
    rw [← Option.some.inj (hnew.symm.trans hcall')] at hwaiting'
    cases hwaiting'

theorem Linearization.perform (hl : Linearization store j s order) (h : Sound none s)
    (command : Command) (hadmissible : s.Admissible command) :
    Linearization store j (s.perform command) order := by
  have hold : ∀ earlier ∈ order, ∃ call, s.calls.get? earlier.name = some call := by
    intro earlier hmem
    obtain ⟨call, hcall, -⟩ := (hl.served earlier).mp hmem
    exact ⟨call, hcall⟩
  cases command with
  | call name handle operation =>
      refine hl.kept ?_ ?_ (fun _ => rfl) rfl
      · intro served
        unfold HasResult
        change (∃ call, (s.calls.insert name _).get? served.name = some call ∧ _) ↔ _
        by_cases hname : served.name = name
        · rw [hname, hadmissible.1]
          simp [Progress.result]
        · rw [OrderedMap.get?_insert, if_neg hname]
      · intro earlier hmem later hsublist
        refine sublist_of_concat hsublist ?_
        rintro ⟨⟩
        obtain ⟨call, hcall⟩ := hold earlier hmem
        rw [hadmissible.1] at hcall
        cases hcall
  | cancel name =>
      refine Linearization.close ?_ name
      refine hl.kept (fun _ => Iff.rfl) ?_ (fun _ => rfl) rfl
      exact fun _ _ _ hsublist => sublist_of_concat hsublist (by simp)
  | clone handle newHandle =>
      refine hl.kept (fun _ => Iff.rfl) (fun _ _ _ hsublist => hsublist) ?_ rfl
      intro other
      have hclone := (h.clone handle newHandle).place other
      change (s.handles.stores[(s.handles.clone handle newHandle).place other]?).getD QuestionStore.empty = _
      rw [hclone, Handles.storeOf, h.place]
  | hold name mode | release name ended =>
      exact hl.kept (fun _ => Iff.rfl) (fun _ _ _ hsublist => hsublist) (fun _ => rfl) rfl

theorem linearization_start (handle : String) (store : QuestionStore) (j : Journal) :
    Linearization store j (start handle store j) [] where
  distinct := List.nodup_nil
  served := by simp [HasResult, start]
  realTime := .nil
  replays := by
    obtain ⟨final, hstore, hfinal⟩ := (sound_start handle store j).storeOf
    exact ⟨final, hfinal, replays_nil_iff.mpr ⟨(List.singleton_inj.mp hstore).symm, rfl⟩⟩

theorem sound_of_reachable (h : Reachable (start handle store j) running s) :
    Sound running s ∧ ∃ order, Linearization store j s order := by
  induction h with
  | start => exact ⟨sound_start handle store j, [], linearization_start handle store j⟩
  | command command _ hadmissible ih =>
      obtain ⟨hsound, order, hl⟩ := ih
      exact ⟨hsound.perform command hadmissible, order, hl.perform hsound command hadmissible⟩
  | turn name _ _ ih =>
      obtain ⟨hsound, order, hl⟩ := ih
      exact ⟨hsound.takeTurn name, order,
        hl.kept (fun _ => Iff.rfl) (fun _ _ _ hsublist => hsublist) (fun _ => rfl) rfl⟩
  | goOn _ hgoesOn ih =>
      obtain ⟨hsound, order, hl⟩ := ih
      have := hsound.step hl
      rwa [hgoesOn] at this
  | sleep _ hsleeps ih =>
      obtain ⟨hsound, order, hl⟩ := ih
      have := hsound.step hl
      rwa [hsleeps] at this

/-! ### Turns -/

/-- A task that goes on has fewer steps left. -/
theorem Sound.stepsLeft_lt (h : Sound (some name) s) (hgoesOn : (s.step name).2 = true) :
    ∃ point point', s.lock.pointOf name = some point ∧ (s.step name).1.lock.pointOf name = some point' ∧
      LockSystem.stepsLeft point' < LockSystem.stepsLeft point := by
  change ((s.advance name).lock.step name).2 = true at hgoesOn
  change ∃ point point', _ ∧
    ({ s.advance name with lock := ((s.advance name).lock.step name).1 : SharedStore }.close name).lock.pointOf
      name = some point' ∧ _
  rw [close_lock, ← h.pointOf_advance]
  cases htask : (s.advance name).lock.tasks.get? name with
  | none =>
      rw [LockSystem.step_of_none htask] at hgoesOn
      cases hgoesOn
  | some task =>
      have hsteps := h.advance.lock.steps htask
      rw [hgoesOn] at hsteps
      obtain ⟨task', htask', hlt⟩ := LockSystem.stepsLeft_lt_of_steps hsteps
      exact ⟨task.point, task'.point, by rw [LockSystem.pointOf, htask]; rfl,
        by rw [LockSystem.pointOf, htask']; rfl, hlt⟩

theorem runTask_succ (fuel : Nat) :
    s.runTask name (fuel + 1) =
      if (s.step name).2 then (s.step name).1.runTask name fuel else (s.step name).1 := rfl

theorem reachable_runTask (fuel : Nat) (h : Reachable (start handle store j) (some name) s)
    (hfuel : 0 < fuel)
    (hleft : ∀ point, s.lock.pointOf name = some point → LockSystem.stepsLeft point ≤ fuel) :
    Reachable (start handle store j) none (s.runTask name fuel) := by
  induction fuel generalizing s with
  | zero => exact absurd hfuel (Nat.lt_irrefl 0)
  | succ fuel ih =>
      rw [runTask_succ]
      cases hgoesOn : (s.step name).2 with
      | false =>
          rw [if_neg (by simp)]
          exact h.sleep hgoesOn
      | true =>
          rw [if_pos rfl]
          obtain ⟨point, point', hpoint, hpoint', hlt⟩ := (sound_of_reachable h).1.stepsLeft_lt hgoesOn
          have hle := hleft point hpoint
          have hpos := (LockSystem.stepsLeft_bounds point').1
          refine ih (h.goOn hgoesOn) (by omega) fun point'' hpoint'' => ?_
          obtain rfl := Option.some.inj (hpoint'.symm.trans hpoint'')
          omega

theorem reachable_settleWithin (fuel : Nat) (h : Reachable (start handle store j) none s) :
    Reachable (start handle store j) none (s.settleWithin fuel) := by
  induction fuel generalizing s with
  | zero => exact h
  | succ fuel ih =>
      unfold settleWithin
      cases hready : s.lock.ready with
      | nil => exact h
      | cons name rest =>
          have hturn := h.turn name (by simp [hready])
          exact ih (reachable_runTask LockSystem.stepsPerTurn hturn (by decide) fun point _ =>
            Nat.le_of_lt (LockSystem.stepsLeft_bounds point).2)

/-- Whether commands make sense, one after another. -/
def AllAdmissible : List Command → SharedStore → Prop
  | [], _ => True
  | command :: rest, s => s.Admissible command ∧ AllAdmissible rest (s.perform command)

theorem reachable_performAll (commands : List Command) (h : Reachable (start handle store j) none s)
    (hadmissible : AllAdmissible commands s) :
    Reachable (start handle store j) none (s.performAll commands) := by
  have hfold : ∀ (commands : List Command) (s : SharedStore),
      Reachable (start handle store j) none s → AllAdmissible commands s →
      Reachable (start handle store j) none
        (commands.foldl (fun (s : SharedStore) command => s.perform command) s) := by
    intro commands
    induction commands with
    | nil => exact fun _ h _ => h
    | cons command rest ih => exact fun s h hall => ih _ (h.command command hall.1) hall.2
  exact reachable_settleWithin _ (hfold commands s h hadmissible)

/-! ### One order -/

/-- However calls of operations through the handles of one store wait for each other and for other
holders of its lock, and whichever of them are cancelled: the calls that have a result are, in one order
that agrees with the time of each, a run of their operations one at a time, which gives each its result
and leaves the store as it is; a call that ended without one was cancelled; of several removals of one
question one succeeds; and what was added or updated is not lost. -/
theorem exists_linearization (h : Reachable (start handle store j) running s) :
    ∃ order, Linearization store j s order ∧
      (running = none → ∀ name call result, s.calls.get? name = some call →
        (call.progress.result = some result ↔ call.progress = .finished (some result))) ∧
      (∀ name call, s.calls.get? name = some call → call.progress = .finished none →
        .cancelled name ∈ s.history) ∧
      RemovesOnce store j order ∧ ∀ handle, LosesNone order (s.handles.storeOf handle) := by
  obtain ⟨hsound, order, hl⟩ := sound_of_reachable h
  obtain ⟨final, hfinal, hreplays⟩ := hl.replays
  refine ⟨order, hl, ?_, ?_, hreplays.removesOnce, ?_⟩
  · rintro rfl name call result hcall
    exact hsound.result_iff hcall result
  · exact fun name call hcall hover => (hsound.calls name call hcall).vanished hover
  · intro handle
    rw [hfinal]
    exact hreplays.losesNone

/-- Somebody else holds the lock while calls come through two handles, and one of them is cancelled
before the lock is free. -/
def contendedCommands : List Command :=
  let id : QuestionId := ⟨"a", by decide⟩
  let q : Question :=
    { id := ⟨"b", by decide⟩, title := .text "Title", content := .text "new", tags := none }
  [.clone "main" "clone", .hold "other" .exclusive, .call "first" "main" (.delete id),
    .call "second" "clone" (.delete id), .call "add" "clone" (.add q), .call "clear" "main" .clear,
    .call "list" "clone" (.list {}), .call "none" "main" (.list { window := { start := 3, stop := 1 } })]

def oneQuestion : QuestionStore :=
  .ofList [{ id := ⟨"a", by decide⟩, title := .text "Title", content := .text "old", tags := none }]

def contended : SharedStore :=
  (((start "main" oneQuestion .verbose).performAll contendedCommands).performAll
    [.cancel "clear"]).performAll [.release "other" .normally]

/-- Only the list of no positions is over before the lock is free; of the two removals the first succeeds,
the question that was added is there, and the cancelled call has not cleared the store. -/
theorem exists_linearization_contended :
    Reachable (start "main" oneQuestion .verbose) none contended ∧
    contended.history = [.called "first", .called "second", .called "add", .called "clear",
      .called "list", .called "none", .ended "none", .cancelled "clear", .ended "clear",
      .ended "first", .ended "second", .ended "add", .ended "list"] ∧
    (contended.handles.storeOf "clone").ids.map (·.text) = ["b"] ∧
    ∃ order, Linearization oneQuestion .verbose contended order ∧
      RemovesOnce oneQuestion .verbose order ∧
      LosesNone order (contended.handles.storeOf "clone") := by
  have hstart : Reachable (start "main" oneQuestion .verbose) none (start "main" oneQuestion .verbose) :=
    .start
  have hcalled := reachable_performAll contendedCommands hstart
    ⟨trivial, ⟨rfl, rfl⟩, ⟨rfl, rfl⟩, ⟨rfl, rfl⟩, ⟨rfl, rfl⟩, ⟨rfl, rfl⟩, ⟨rfl, rfl⟩, ⟨rfl, rfl⟩, trivial⟩
  have hcancelled := reachable_performAll [.cancel "clear"] hcalled ⟨trivial, trivial⟩
  have hreachable : Reachable (start "main" oneQuestion .verbose) none contended :=
    reachable_performAll [.release "other" .normally] hcancelled ⟨rfl, trivial⟩
  obtain ⟨order, hl, -, -, hremoves, hloses⟩ := exists_linearization hreachable
  exact ⟨hreachable, by decide +kernel, by decide +kernel, order, hl, hremoves, hloses "clone"⟩

end SharedStore

end QuestionBoard
