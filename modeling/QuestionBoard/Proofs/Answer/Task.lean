import QuestionBoard.Answer.Task
import QuestionBoard.Board.Command
import QuestionBoard.Proofs.Action

/-!
What a step of a task comes to. A task that is not interrupted does in its steps what `answerFor` does,
or what replacing a question does on the board.
-/

namespace QuestionBoard

open QuestionBoard.Action

namespace AnswerTask

variable {ι σ κ γ α : Type}

@[simp] theorem outcome_after (a : Action σ α) (next : α → AnswerTask) (ended : Failure → AnswerTask)
    (s : σ) (j : Journal) : (after a next ended).outcome s j =
      ⟨.ok (match (a.outcome s j).result with
        | .ok value => next value
        | .error f => ended f), (a.outcome s j).state, (a.outcome s j).journal⟩ := by
  rw [after, outcome_bind, outcome_attempt, andThen_ok]
  cases (a.outcome s j).result <;> rfl

variable [QuestionRepository σ] [Cache κ] [AnswerSource γ] {s : AnswerService σ κ γ} {j : Journal}

theorem step_of_isDone {task : AnswerTask} (h : task.isDone = true) :
    (task.step : Action (AnswerService σ κ γ) AnswerTask) = return task := by
  cases task with
  | answered result | replaced result => rfl
  | _ => cases h

theorem outcome_steps_of_isDone {task : AnswerTask} (h : task.isDone = true) (n : Nat) :
    (steps n task : Action (AnswerService σ κ γ) AnswerTask).outcome s j = ⟨.ok task, s, j⟩ := by
  induction n with
  | zero => rfl
  | succ n ih => rw [steps, step_of_isDone h, pure_bind, ih]

/-- A step never fails: a failure ends the task. -/
theorem exists_outcome_step (task : AnswerTask) (s : AnswerService σ κ γ) (j : Journal) :
    ∃ task' s' j', task.step.outcome s j = ⟨.ok task', s', j'⟩ := by
  cases task with
  | answered result | replaced result => exact ⟨_, _, _, rfl⟩
  | _ => exact ⟨_, _, _, outcome_after _ _ _ s j⟩

/-- A task that asks for an answer and is not interrupted does what `answerFor` does. -/
theorem outcome_steps_reading (id : QuestionId) (s : AnswerService σ κ γ) (j : Journal) :
    (steps 4 (reading id)).outcome s j =
      let o := (AnswerService.answerFor id).outcome s j
      ⟨.ok (answered o.result), o.state, o.journal⟩ := by
  rw [steps, outcome_bind, step, outcome_after, andThen_ok, AnswerService.answerFor, outcome_bind]
  rcases (AnswerService.onQuestions (QuestionRepository.get id)).outcome s j with ⟨f | q, s₁, j₁⟩
  · exact outcome_steps_of_isDone rfl 3
  change (steps 3 (looking q)).outcome s₁ j₁ = _
  rw [steps, outcome_bind, step, outcome_after, andThen_ok, andThen_ok, outcome_bind]
  rcases (AnswerService.kept q.id).outcome s₁ j₁ with ⟨f | _ | answer, s₂, j₂⟩
  · exact outcome_steps_of_isDone rfl 2
  · change (steps 2 (asking q)).outcome s₂ j₂ = _
    rw [steps, outcome_bind, step, outcome_after, andThen_ok, andThen_ok]
    simp only [outcome_bind]
    rcases (AnswerService.onSource (AnswerSource.answer q.content)).outcome s₂ j₂ with ⟨f | answer, s₃, j₃⟩
    · exact outcome_steps_of_isDone rfl 1
    change (steps 1 (keeping q answer)).outcome s₃ j₃ = _
    rw [steps, outcome_bind, step, outcome_after, andThen_ok, andThen_ok, outcome_bind]
    rcases (AnswerService.keep q.id answer).outcome s₃ j₃ with ⟨f | _, s₄, j₄⟩ <;> rfl
  · exact outcome_steps_of_isDone rfl 2

/-- A task that replaces a question and is not interrupted does what `replace` does. -/
theorem outcome_steps_replacing (q : Question) (s : AnswerService σ κ γ) (j : Journal) :
    (steps 2 (replacing q)).outcome s j =
      let o := (AnswerService.replace q).outcome s j
      ⟨.ok (replaced o.result), o.state, o.journal⟩ := by
  rw [steps, outcome_bind, step, outcome_after, andThen_ok, AnswerService.replace, outcome_bind]
  rcases (AnswerService.onQuestions (QuestionRepository.update q)).outcome s j with ⟨f | stored, s₁, j₁⟩
  · exact outcome_steps_of_isDone rfl 1
  change (steps 1 (dropping stored)).outcome s₁ j₁ = _
  rw [steps, outcome_bind, step, outcome_after, andThen_ok, andThen_ok, outcome_bind]
  rcases (AnswerService.invalidate stored.id).outcome s₁ j₁ with ⟨f | _, s₂, j₂⟩ <;> rfl

end AnswerTask

/-- The board replaces a question as tasks do. -/
theorem Command.run_replace {σ κ γ : Type} [QuestionRepository σ] [Cache κ] [AnswerSource γ]
    (serviceName : Text) (id : String) (draft : QuestionDraft) :
    ((Command.replace id draft).run serviceName : Action (AnswerService σ κ γ) Json) =
      (Action.ofExcept (QuestionId.ofText id) >>= fun target =>
        AnswerService.replace (draft.question target) >>= fun question =>
          report question.id "updated" >>= fun _ => Action.ofExcept question.response) := by
  simp only [Command.run, AnswerService.replace, bind_assoc, pure_bind]

end QuestionBoard
