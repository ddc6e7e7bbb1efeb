import QuestionBoard.Answer.Service

/-!
Tasks on one service. A task asks for the answer to a question, or puts a question in the place of a
stored one and drops the answer that is kept. It is suspended wherever it reads or changes the
questions or the cache and wherever it asks the source, and other tasks may take steps meanwhile; what
it does between two suspensions is one step.
-/

namespace QuestionBoard

namespace AnswerService

variable {σ κ γ : Type}

/-- Replaces a stored question and drops the answer that is kept to it. -/
def replace [QuestionRepository σ] [Cache κ] (q : Question) : Action (AnswerService σ κ γ) Question := do
  let stored ← onQuestions (QuestionRepository.update q)
  let _ ← invalidate stored.id
  return stored

end AnswerService

/-- How far a task has come, and what it does next. -/
inductive AnswerTask
  | reading (id : QuestionId)
  /-- It looks for a kept answer to a question that it has read. -/
  | looking (q : Question)
  /-- It asks the source. -/
  | asking (q : Question)
  | keeping (q : Question) (answer : Text)
  | replacing (q : Question)
  /-- It drops the kept answer to a question that it has replaced. -/
  | dropping (q : Question)
  | answered (result : Except Failure Text)
  | replaced (result : Except Failure Question)

namespace AnswerTask

variable {σ κ γ α : Type}

def isDone : AnswerTask → Bool
  | answered _ | replaced _ => true
  | _ => false

/-- The task after a step, which goes on with its value or ends with its failure. -/
def after (a : Action σ α) (next : α → AnswerTask) (ended : Failure → AnswerTask) : Action σ AnswerTask := do
  match ← a.attempt with
  | .ok value => return next value
  | .error f => return ended f

variable [QuestionRepository σ] [Cache κ] [AnswerSource γ]

def step : AnswerTask → Action (AnswerService σ κ γ) AnswerTask
  | reading id => after (AnswerService.onQuestions (QuestionRepository.get id)) looking
      fun f => answered (.error f)
  | looking q => after (AnswerService.kept q.id)
      (fun found => found.elim (asking q) fun answer => answered (.ok answer)) fun f => answered (.error f)
  | asking q => after (AnswerService.onSource (AnswerSource.answer q.content)) (keeping q)
      fun f => answered (.error f)
  | keeping q answer => after (AnswerService.keep q.id answer) (fun _ => answered (.ok answer))
      fun f => answered (.error f)
  | replacing q => after (AnswerService.onQuestions (QuestionRepository.update q)) dropping
      fun f => replaced (.error f)
  | dropping q => after (AnswerService.invalidate q.id) (fun _ => replaced (.ok q))
      fun f => replaced (.error f)
  | task => return task

/-- Some steps of a task with no other task in between. -/
def steps : Nat → AnswerTask → Action (AnswerService σ κ γ) AnswerTask
  | 0, task => return task
  | n + 1, task => do steps n (← task.step)

end AnswerTask

structure AnswerTasks (ι σ κ γ : Type) where
  service : AnswerService σ κ γ
  journal : Journal
  tasks : ι → AnswerTask

/-- The tasks when one of them has taken its next step. -/
def AnswerTasks.step {ι σ κ γ : Type} [DecidableEq ι] [QuestionRepository σ] [Cache κ] [AnswerSource γ]
    (i : ι) (t : AnswerTasks ι σ κ γ) : AnswerTasks ι σ κ γ :=
  let o := (t.tasks i).step.outcome t.service t.journal
  ⟨o.state, o.journal, fun other =>
    if other = i then o.result.toOption.getD (t.tasks i) else t.tasks other⟩

end QuestionBoard
