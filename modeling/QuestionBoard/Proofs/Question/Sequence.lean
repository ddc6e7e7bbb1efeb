import QuestionBoard.Proofs.Question.Listing
import QuestionBoard.Question.Shared

/-!
Operations of a store one after another. What an operation does under the lock and what it makes of it
after that are together what it does when it runs alone; `Replays` says that operations in an order
come to given results. Along such an order only one of several removals of a question finds it, and a
question that was stored stays until an operation touches its identifier.
-/

namespace QuestionBoard

namespace QuestionStore

open QuestionBoard.Action

/-- Under the lock an operation does all that it does to the store, and the rest is in its result. -/
theorem Operation.outcome_run_eq (operation : Operation) (s : QuestionStore) (j : Journal) :
    operation.run.outcome s j =
      ⟨(operation.block.outcome s j).result.bind Taken.result, (operation.block.outcome s j).state,
        (operation.block.outcome s j).journal⟩ := by
  -- An operation that does all its work in its block.
  have hwhole : ∀ operation : Operation,
      operation.block = (do return Taken.done (← operation.run)) →
      operation.run.outcome s j =
        ⟨(operation.block.outcome s j).result.bind Taken.result, (operation.block.outcome s j).state,
          (operation.block.outcome s j).journal⟩ := by
    intro operation hblock
    rw [hblock, outcome_bind]
    rcases operation.run.outcome s j with ⟨_ | _, _, _⟩ <;> rfl
  cases operation with
  | find id =>
      rw [Operation.run, outcome_bind, outcome_find, Operation.block, outcome_bind, outcome_get,
        andThen_ok, outcome_pure]
      cases s.questions.get? id <;> rfl
  | list selection =>
      rw [Operation.run, outcome_bind, outcome_list, Operation.block]
      by_cases hempty : selection.window.isEmpty = true
      · rw [if_pos hempty, if_pos hempty]
        rfl
      · rw [if_neg hempty, if_neg hempty]
        rfl
  | _ => exact hwhole _ rfl

/-! ### Operations in order -/

/-- An operation that has taken effect, under the name of its call, with its result. -/
structure Served where
  name : String
  operation : Operation
  result : Except Failure Reply

/-- Does operations one after another, and gives their results, failures included. -/
def runAll (operations : List Operation) : Action QuestionStore (List (Except Failure Reply)) :=
  operations.mapM fun operation => operation.run.attempt

/-- Operations done in order, from one store and journal to another, have their results. -/
def Replays (order : List Served) (s : QuestionStore) (j : Journal) (s' : QuestionStore)
    (j' : Journal) : Prop :=
  (runAll (order.map Served.operation)).outcome s j = ⟨.ok (order.map Served.result), s', j'⟩

variable {s s' : QuestionStore} {j j' : Journal} {order later : List Served} {served : Served}

theorem replays_nil_iff : Replays [] s j s' j' ↔ s' = s ∧ j' = j := by
  change (⟨.ok [], s, j⟩ : Outcome _ _) = ⟨.ok [], s', j'⟩ ↔ _
  rw [Outcome.mk.injEq]
  constructor
  · rintro ⟨_, hs, hj⟩
    exact ⟨hs.symm, hj.symm⟩
  · rintro ⟨hs, hj⟩
    exact ⟨rfl, hs.symm, hj.symm⟩

theorem replays_cons_iff : Replays (served :: order) s j s' j' ↔
    (served.operation.run.outcome s j).result = served.result ∧
      Replays order (served.operation.run.outcome s j).state
        (served.operation.run.outcome s j).journal s' j' := by
  unfold Replays runAll
  rw [List.map_cons, List.map_cons, List.mapM_cons, outcome_bind, outcome_attempt, andThen_ok,
    outcome_bind]
  rcases outcome _ _ _ with ⟨_ | results, t, k⟩
  · simp
  · simp [and_assoc]

theorem replays_append_iff : Replays (order ++ later) s j s' j' ↔
    ∃ t k, Replays order s j t k ∧ Replays later t k s' j' := by
  induction order generalizing s j with
  | nil => simp [replays_nil_iff]
  | cons first rest ih =>
      simp only [List.cons_append, replays_cons_iff, ih, and_assoc, exists_and_left]

/-- One more operation at the end of an order. -/
theorem Replays.concat (h : Replays order s j s' j') (name : String) (operation : Operation) :
    Replays (order ++ [⟨name, operation, (operation.run.outcome s' j').result⟩]) s j
      (operation.run.outcome s' j').state (operation.run.outcome s' j').journal := by
  refine replays_append_iff.mpr ⟨s', j', h, ?_⟩
  exact replays_cons_iff.mpr ⟨rfl, replays_nil_iff.mpr ⟨rfl, rfl⟩⟩

/-! ### One identifier -/

/-- Whether an operation may change what is stored under an identifier. -/
def Operation.Touches (id : QuestionId) : Operation → Prop
  | .add q | .update q => q.id = id
  | .delete id' => id' = id
  | .clear => True
  | .find _ | .list _ | .count => False

variable {id : QuestionId}

theorem Operation.get?_of_not_touches {operation : Operation} (h : ¬operation.Touches id)
    (s : QuestionStore) (j : Journal) :
    (operation.run.outcome s j).state.questions.get? id = s.questions.get? id := by
  cases operation with
  | add q =>
      rw [Operation.run, outcome_bind, outcome_add, andThen_ok, outcome_pure]
      exact (OrderedMap.get?_insert ..).trans (if_neg fun e => h e.symm)
  | update q =>
      rw [Operation.run, outcome_bind, outcome_update]
      by_cases hstored : s.questions.contains q.id = true
      · rw [if_pos hstored, andThen_ok, outcome_pure]
        exact (OrderedMap.get?_insert ..).trans (if_neg fun e => h e.symm)
      · rw [if_neg hstored, andThen_error]
  | delete id' =>
      rw [Operation.run, outcome_bind, outcome_delete]
      by_cases hstored : s.questions.contains id' = true
      · rw [if_pos hstored, andThen_ok, outcome_pure]
        exact (OrderedMap.get?_erase ..).trans (if_neg fun e => h e.symm)
      · rw [if_neg hstored, andThen_error]
  | find id' =>
      rw [Operation.run, outcome_bind, outcome_find]
      cases s.questions.get? id' <;> rfl
  | list selection => rfl
  | count => rfl
  | clear => exact absurd trivial h

/-- What is stored under an identifier stays as long as no operation touches it. -/
theorem Replays.get?_of_not_touches (h : Replays order s j s' j')
    (hothers : ∀ served ∈ order, ¬served.operation.Touches id) :
    s'.questions.get? id = s.questions.get? id := by
  induction order generalizing s j with
  | nil =>
      obtain ⟨rfl, -⟩ := replays_nil_iff.mp h
      rfl
  | cons first rest ih =>
      obtain ⟨hfirst, hrest⟩ := List.forall_mem_cons.mp hothers
      rw [ih (replays_cons_iff.mp h).2 hrest, first.operation.get?_of_not_touches hfirst]

theorem Operation.outcome_delete (id : QuestionId) (s : QuestionStore) (j : Journal) :
    (Operation.delete id).run.outcome s j =
      if s.questions.contains id then ⟨.ok .done, ⟨s.questions.erase id⟩, j⟩
      else ⟨.error (.noQuestion id), s, j⟩ := by
  rw [Operation.run, outcome_bind, QuestionStore.outcome_delete]
  split <;> rfl

/-- Where nothing is stored under an identifier, removals of it fail, and still nothing is stored. -/
theorem Operation.contains_of_absent {operation : Operation}
    (honly : operation.Touches id → operation = .delete id)
    (habsent : s.questions.contains id = false) :
    (operation = .delete id → (operation.run.outcome s j).result = .error (.noQuestion id)) ∧
      (operation.run.outcome s j).state.questions.contains id = false := by
  by_cases htouches : operation.Touches id
  · rw [honly htouches, Operation.outcome_delete, if_neg (Bool.not_eq_true _ ▸ habsent)]
    exact ⟨fun _ => rfl, habsent⟩
  · refine ⟨?_, ?_⟩
    · rintro rfl
      exact absurd rfl htouches
    · rw [OrderedMap.contains, Operation.get?_of_not_touches htouches]
      exact habsent

theorem Replays.result_of_absent (h : Replays order s j s' j')
    (honly : ∀ served ∈ order, served.operation.Touches id → served.operation = .delete id)
    (habsent : s.questions.contains id = false) :
    ∀ served ∈ order, served.operation = .delete id → served.result = .error (.noQuestion id) := by
  induction order generalizing s j with
  | nil => exact fun _ hmem => absurd hmem (List.not_mem_nil)
  | cons first rest ih =>
      obtain ⟨hresult, hreplays⟩ := replays_cons_iff.mp h
      obtain ⟨hfirst, hrest⟩ := List.forall_mem_cons.mp honly
      obtain ⟨hfails, habsent'⟩ := Operation.contains_of_absent (j := j) hfirst habsent
      refine List.forall_mem_cons.mpr ⟨?_, ih hreplays hrest habsent'⟩
      exact fun hdelete => hresult.symm.trans (hfails hdelete)

/-- Of the removals of a stored question, when nothing else touches its identifier, the first finds the
question and the others fail. -/
theorem Replays.exists_removal (h : Replays order s j s' j')
    (honly : ∀ served ∈ order, served.operation.Touches id → served.operation = .delete id)
    (hstored : s.questions.contains id = true)
    (hsome : ∃ served ∈ order, served.operation = .delete id) :
    ∃ before first after, order = before ++ first :: after ∧
      first.operation = .delete id ∧ first.result = .ok .done ∧
      (∀ served ∈ before, served.operation ≠ .delete id) ∧
      ∀ served ∈ after, served.operation = .delete id → served.result = .error (.noQuestion id) := by
  induction order generalizing s j with
  | nil =>
      obtain ⟨_, hmem, _⟩ := hsome
      exact absurd hmem List.not_mem_nil
  | cons head rest ih =>
      obtain ⟨hresult, hreplays⟩ := replays_cons_iff.mp h
      obtain ⟨hhead, hrest⟩ := List.forall_mem_cons.mp honly
      by_cases hdelete : head.operation = .delete id
      · rw [hdelete, Operation.outcome_delete, if_pos hstored] at hresult hreplays
        refine ⟨[], head, rest, rfl, hdelete, hresult.symm, by simp, ?_⟩
        exact hreplays.result_of_absent hrest (by simp [OrderedMap.contains])
      · have hkept : (head.operation.run.outcome s j).state.questions.contains id = true := by
          rw [OrderedMap.contains, Operation.get?_of_not_touches fun e => hdelete (hhead e)]
          exact hstored
        have hsome' : ∃ served ∈ rest, served.operation = .delete id := by
          obtain ⟨served, hmem, hserved⟩ := hsome
          rcases List.mem_cons.mp hmem with rfl | hmem
          · exact absurd hserved hdelete
          · exact ⟨served, hmem, hserved⟩
        obtain ⟨before, first, after, rfl, hfirst, hok, hbefore, hafter⟩ :=
          ih hreplays hrest hkept hsome'
        exact ⟨head :: before, first, after, rfl, hfirst, hok,
          List.forall_mem_cons.mpr ⟨hdelete, hbefore⟩, hafter⟩

/-- Where a question was stored, it is stored until another operation touches its identifier. -/
theorem Replays.get?_of_stored {q : Question} (h : Replays (order ++ served :: later) s j s' j')
    (hstores : served.operation = .add q ∨ served.operation = .update q)
    (hresult : served.result = .ok (.question q))
    (hothers : ∀ other ∈ later, ¬other.operation.Touches q.id) :
    s'.questions.get? q.id = some q := by
  obtain ⟨t, k, -, hserved⟩ := replays_append_iff.mp h
  obtain ⟨hrun, hlater⟩ := replays_cons_iff.mp hserved
  rw [hlater.get?_of_not_touches hothers]
  have hput : ((t.put q).questions.get? q.id) = some q :=
    (OrderedMap.get?_insert ..).trans (if_pos rfl)
  rcases hstores with hadd | hupdate
  · rw [hadd, Operation.run, outcome_bind, outcome_add]
    exact hput
  · rw [hupdate, Operation.run, outcome_bind, outcome_update] at hrun ⊢
    by_cases hstored : t.questions.contains q.id = true
    · rw [if_pos hstored]
      exact hput
    · rw [if_neg hstored, hresult] at hrun
      cases hrun

theorem Replays.result_of_add {q : Question} (h : Replays order s j s' j') (hmem : served ∈ order)
    (hadd : served.operation = .add q) : served.result = .ok (.question q) := by
  obtain ⟨before, after, rfl⟩ := List.append_of_mem hmem
  obtain ⟨t, k, -, hserved⟩ := replays_append_iff.mp h
  rw [← (replays_cons_iff.mp hserved).1, hadd, Operation.run, outcome_bind, outcome_add]
  rfl

/-- Of the calls that remove a question that is stored at some place of an order, with nothing else to
touch its identifier from there on, one finds it and the others fail. -/
def RemovesOnce (s : QuestionStore) (j : Journal) (order : List Served) : Prop :=
  ∀ earlier later id, order = earlier ++ later →
    ((runAll (earlier.map Served.operation)).outcome s j).state.questions.contains id = true →
    (∀ served ∈ later, served.operation.Touches id → served.operation = .delete id) →
    (∃ served ∈ later, served.operation = .delete id) →
    ∃ first ∈ later, first.operation = .delete id ∧ first.result = .ok .done ∧
      ∀ other ∈ later, other.operation = .delete id → other.name ≠ first.name →
        other.result = .error (.noQuestion id)

/-- Every question that was added, or updated, is stored in the end unless a later operation touches its
identifier. -/
def LosesNone (order : List Served) (s : QuestionStore) : Prop :=
  ∀ earlier served later q, order = earlier ++ served :: later →
    (served.operation = .add q ∨ served.operation = .update q ∧ served.result = .ok (.question q)) →
    (∀ other ∈ later, ¬other.operation.Touches q.id) → s.questions.get? q.id = some q

theorem Replays.removesOnce (h : Replays order s j s' j') : RemovesOnce s j order := by
  rintro earlier later id rfl hstored honly hsome
  obtain ⟨t, k, hearlier, hlater⟩ := replays_append_iff.mp h
  rw [show outcome _ s j = _ from hearlier] at hstored
  obtain ⟨before, first, after, rfl, hfirst, hresult, hbefore, hafter⟩ :=
    hlater.exists_removal honly hstored hsome
  refine ⟨first, by simp, hfirst, hresult, ?_⟩
  intro other hother hdelete hne
  rcases List.mem_append.mp hother with hmem | hmem
  · exact absurd hdelete (hbefore other hmem)
  · rcases List.mem_cons.mp hmem with rfl | hmem
    · exact absurd rfl hne
    · exact hafter other hmem hdelete

theorem Replays.losesNone (h : Replays order s j s' j') : LosesNone order s' := by
  rintro earlier served later q rfl (hadd | ⟨hupdate, hresult⟩) hothers
  · exact h.get?_of_stored (Or.inl hadd) (h.result_of_add (by simp) hadd) hothers
  · exact h.get?_of_stored (Or.inr hupdate) hresult hothers

end QuestionStore

end QuestionBoard
