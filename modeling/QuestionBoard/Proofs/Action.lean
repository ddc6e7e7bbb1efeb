import QuestionBoard.Action

/-!
What steps come to. `Action.outcome` of each way to build a step is given by the outcomes of its
parts, so a step is followed by rewriting.
-/

namespace QuestionBoard

namespace Action

variable {σ τ α β : Type}

/-- What an outcome leads to: the next step if there is a value, the failure if there is one. -/
def Outcome.andThen (o : Outcome σ α) (next : α → Action σ β) : Outcome σ β :=
  match o.result with
  | .ok value => (next value).outcome o.state o.journal
  | .error f => ⟨.error f, o.state, o.journal⟩

@[simp] theorem andThen_ok (value : α) (s : σ) (j : Journal) (next : α → Action σ β) :
    (⟨.ok value, s, j⟩ : Outcome σ α).andThen next = (next value).outcome s j := rfl

@[simp] theorem andThen_error (f : Failure) (s : σ) (j : Journal) (next : α → Action σ β) :
    (⟨.error f, s, j⟩ : Outcome σ α).andThen next = ⟨.error f, s, j⟩ := rfl

variable (s : σ) (j : Journal)

@[simp] theorem outcome_bind (a : Action σ α) (next : α → Action σ β) :
    (a >>= next).outcome s j = (a.outcome s j).andThen next := by
  simp only [outcome, Outcome.andThen, ExceptT.run_bind, StateT.run_bind]
  rcases (a.run.run s).run j with ⟨⟨_ | _, _⟩, _⟩ <;> rfl

/-- What fails first is what a step fails with. -/
theorem result_bind_of_error {a : Action σ α} {next : α → Action σ β} {f : Failure}
    (h : (a.outcome s j).result = .error f) : ((a >>= next).outcome s j).result = .error f := by
  rw [outcome_bind]
  revert h
  obtain ⟨result, state, journal⟩ := a.outcome s j
  rintro rfl
  rfl

@[simp] theorem outcome_pure (value : α) :
    (pure value : Action σ α).outcome s j = ⟨.ok value, s, j⟩ := rfl

@[simp] theorem outcome_throw (f : Failure) :
    (throw f : Action σ α).outcome s j = ⟨.error f, s, j⟩ := rfl

@[simp] theorem outcome_get : (get : Action σ σ).outcome s j = ⟨.ok s, s, j⟩ := rfl

@[simp] theorem outcome_set (t : σ) :
    (MonadStateOf.set t : Action σ Unit).outcome s j = ⟨.ok (), t, j⟩ := rfl

@[simp] theorem outcome_modify (change : σ → σ) :
    (modify change : Action σ Unit).outcome s j = ⟨.ok (), change s, j⟩ := rfl

@[simp] theorem outcome_ofOutcome (run : σ → Journal → Outcome σ α) :
    (ofOutcome run).outcome s j = run s j := rfl

@[simp] theorem outcome_ofExcept (result : Except Failure α) :
    (ofExcept result : Action σ α).outcome s j = ⟨result, s, j⟩ := rfl

/-- A step that only computes leaves everything as it was. -/
theorem outcome_ofExcept_bind_pure (result : Except Failure α) (f : α → β) :
    (do return f (← ofExcept result) : Action σ β).outcome s j = ⟨result.map f, s, j⟩ := by
  cases result <;> rfl

@[simp] theorem outcome_log (level : Log.Level) (logger : String) (message : Text) :
    (log level logger message : Action σ Unit).outcome s j =
      ⟨.ok (), s, j.write ⟨level, logger, message⟩⟩ := rfl

@[simp] theorem outcome_onPart (part : σ → τ) (put : τ → σ → σ) (a : Action τ α) :
    (a.onPart part put).outcome s j =
      ⟨(a.outcome (part s) j).result, put (a.outcome (part s) j).state s,
        (a.outcome (part s) j).journal⟩ := rfl

@[simp] theorem outcome_attempt (a : Action σ α) :
    a.attempt.outcome s j = ⟨.ok (a.outcome s j).result, (a.outcome s j).state,
      (a.outcome s j).journal⟩ := rfl

end Action

end QuestionBoard
