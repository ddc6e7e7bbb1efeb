import QuestionBoard.Proofs.Action
import QuestionBoard.Proofs.OrderedMap
import QuestionBoard.Question.Shared

/-!
The states that a shared store comes to. Calls are made, cancelled and given their turns one at a time;
a task that has its turn keeps it, step by step, until it sleeps or ends. In a step a call may be served,
which `advance_cases` says, and may end, which `close_cases` says.
-/

namespace QuestionBoard

open Lock QuestionStore

namespace SharedStore

/-- Whether a command makes sense: calls and other tasks have names of their own, and the block of a
call ends by itself. -/
def Admissible (s : SharedStore) : Command → Prop
  | .call name _ _ | .hold name _ => s.calls.get? name = none ∧ s.lock.tasks.get? name = none
  | .release name _ => s.calls.get? name = none
  | .cancel _ | .clone _ _ => True

/-- The states that a shared store comes to from a first one, each with the task whose turn it is. -/
inductive Reachable (first : SharedStore) : Option String → SharedStore → Prop
  | start : Reachable first none first
  | command {s : SharedStore} (command : Command) :
      Reachable first none s → s.Admissible command → Reachable first none (s.perform command)
  | turn {s : SharedStore} (name : String) :
      Reachable first none s → name ∈ s.lock.ready → Reachable first (some name) (s.takeTurn name)
  | goOn {s : SharedStore} {name : String} :
      Reachable first (some name) s → (s.step name).2 = true →
        Reachable first (some name) (s.step name).1
  | sleep {s : SharedStore} {name : String} :
      Reachable first (some name) s → (s.step name).2 = false →
        Reachable first none (s.step name).1

/-! ### Parts of a step -/

variable {s : SharedStore} {name : String}

theorem advance_cases (name : String) (s : SharedStore) :
    (s.advance name = s ∧ ∀ call, s.calls.get? name = some call → call.progress = .waiting →
      ∃ task, s.lock.tasks.get? name = some task ∧ task.point ≠ .holding) ∨
    ∃ call, s.calls.get? name = some call ∧ call.progress = .waiting ∧
      (∀ task, s.lock.tasks.get? name = some task → task.point = .holding) ∧
      s.advance name = s.serve name call := by
  unfold advance LockSystem.pointOf
  cases hcall : s.calls.get? name with
  | none => exact Or.inl ⟨rfl, by simp⟩
  | some call =>
      cases hprogress : call.progress with
      | leaving taken | finished result =>
          refine Or.inl ⟨by simp [hprogress], fun call' hcall' hwaiting => ?_⟩
          rw [← Option.some.inj hcall', hprogress] at hwaiting
          cases hwaiting
      | waiting =>
          cases htask : s.lock.tasks.get? name with
          | none => exact Or.inr ⟨call, rfl, hprogress, by simp, by simp [hprogress]⟩
          | some task =>
              by_cases hpoint : task.point = .holding
              · exact Or.inr ⟨call, rfl, hprogress, by simp [hpoint], by simp [hprogress, hpoint]⟩
              · refine Or.inl ⟨?_, fun _ _ _ => ⟨task, rfl, hpoint⟩⟩
                cases hpoint' : task.point <;> simp_all

theorem close_cases (name : String) (s : SharedStore) :
    s.close name = s ∧ (∀ call, s.calls.get? name = some call →
        (∃ result, call.progress = .finished result) ∨
          ∃ task, s.lock.tasks.get? name = some task ∧ task.point ≠ .done) ∨
      ∃ call, s.calls.get? name = some call ∧ (∀ result, call.progress ≠ .finished result) ∧
        (∀ task, s.lock.tasks.get? name = some task → task.point = .done) ∧
        s.close name = { s with
          calls := s.calls.insert name { call with progress := .finished call.progress.result }
          history := s.history ++ [.ended name] } := by
  unfold close LockSystem.pointOf
  cases hcall : s.calls.get? name with
  | none => exact Or.inl ⟨rfl, by simp⟩
  | some call =>
      by_cases hover : ∃ result, call.progress = .finished result
      · obtain ⟨result, hprogress⟩ := hover
        have hsame : s.conclude name call = s := by simp [conclude, hprogress]
        refine Or.inl ⟨?_, fun call' hcall' => Or.inl ⟨result, Option.some.inj hcall' ▸ hprogress⟩⟩
        simp only [hsame]
        split <;> rfl
      · have hends : s.conclude name call = { s with
            calls := s.calls.insert name { call with progress := .finished call.progress.result }
            history := s.history ++ [.ended name] } := by
          unfold conclude
          split
          · exact absurd ⟨_, by assumption⟩ hover
          · rfl
        have hnot : ∀ result, call.progress ≠ .finished result := fun result e => hover ⟨result, e⟩
        cases htask : s.lock.tasks.get? name with
        | none => exact Or.inr ⟨call, rfl, hnot, by simp, hends⟩
        | some task =>
            by_cases hpoint : task.point = .done
            · refine Or.inr ⟨call, rfl, hnot, by simp [hpoint], ?_⟩
              simp only [Option.map_some, hpoint]
              exact hends
            · refine Or.inl ⟨?_, fun _ _ => Or.inr ⟨task, rfl, hpoint⟩⟩
              cases hpoint' : task.point <;> simp_all

theorem close_lock (name : String) (s : SharedStore) : (s.close name).lock = s.lock := by
  rcases close_cases name s with ⟨heq, -⟩ | ⟨call, -, -, -, heq⟩
  · rw [heq]
  · rw [heq]

/-- What a step through a handle comes to while there is only one store. -/
theorem outcome_on {α : Type} {h : Handles} {final : QuestionStore} (hstore : h.stores = [final])
    (hplace : ∀ handle, h.place handle = 0) (handle : String) (a : Action QuestionStore α) (j : Journal) :
    (Handles.on handle a).outcome h j =
      ⟨(a.outcome final j).result, { h with stores := [(a.outcome final j).state] },
        (a.outcome final j).journal⟩ := by
  rw [Handles.on, Action.outcome_onPart, Handles.storeOf, hplace, hstore]
  rfl

end SharedStore

end QuestionBoard
