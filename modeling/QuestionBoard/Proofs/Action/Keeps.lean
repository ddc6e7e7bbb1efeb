import QuestionBoard.Proofs.Action

/-!
What a step keeps. A step keeps an invariant when it ends in a state with the invariant whenever it
starts in one; what it comes to there is told of its failure and of its value apart. There is a rule
for each way to build a step.
-/

namespace QuestionBoard

variable {σ τ α β : Type}

/-- Whether a result is a failure of one kind or a value of another. -/
def Settles (P : Failure → Prop) (Q : α → Prop) : Except Failure α → Prop
  | .error f => P f
  | .ok value => Q value

variable {I : σ → Prop} {P P' : Failure → Prop} {Q : α → Prop} {R : β → Prop}

theorem Settles.imp_failure {result : Except Failure α} (h : Settles P Q result)
    (hP : ∀ f, P f → P' f) : Settles P' Q result := by
  cases result with
  | error f => exact hP f h
  | ok value => exact h

theorem settles_of_error {result : Except Failure α} (h : ∀ f, result = .error f → P f) :
    Settles P (fun _ => True) result := by
  cases result with
  | error f => exact h f rfl
  | ok value => exact trivial

theorem Settles.bind {result : Except Failure α} {next : α → Except Failure β} (h : Settles P Q result)
    (hnext : ∀ value, Q value → Settles P R (next value)) : Settles P R (result >>= next) := by
  cases result with
  | error f => exact h
  | ok value => exact hnext value h

theorem settles_mapM {f : α → Except Failure β} {items : List α}
    (h : ∀ item ∈ items, Settles P R (f item)) :
    Settles P (fun values => ∀ value ∈ values, R value) (items.mapM f) := by
  induction items with
  | nil => exact List.forall_mem_nil _
  | cons item rest ih =>
      rw [List.mapM_cons]
      refine (h item List.mem_cons_self).bind fun value hvalue => ?_
      refine (ih fun other hother => h other (List.mem_cons_of_mem _ hother)).bind fun values hvalues => ?_
      exact List.forall_mem_cons.mpr ⟨hvalue, hvalues⟩

theorem settles_filterMapM {f : α → Except Failure (Option β)} {items : List α}
    (h : ∀ item ∈ items, Settles P (fun _ => True) (f item)) :
    Settles P (fun _ => True) (items.filterMapM f) := by
  induction items with
  | nil => exact trivial
  | cons item rest ih =>
      have hrest := ih fun other hother => h other (List.mem_cons_of_mem item hother)
      rw [List.filterMapM_cons]
      refine (h item List.mem_cons_self).bind fun found _ => ?_
      cases found with
      | none => exact hrest
      | some value => exact hrest.bind fun _ _ => trivial

namespace Action

/-- Whether a step keeps an invariant, and fails and succeeds as two predicates say. -/
def Keeps (I : σ → Prop) (P : Failure → Prop) (Q : α → Prop) (a : Action σ α) : Prop :=
  ∀ s j, I s → I (a.outcome s j).state ∧ Settles P Q (a.outcome s j).result

variable {a : Action σ α}

theorem Keeps.imp_failure (h : Keeps I P Q a) (hP : ∀ f, P f → P' f) : Keeps I P' Q a :=
  fun s j hs => ⟨(h s j hs).1, (h s j hs).2.imp_failure hP⟩

theorem Keeps.bind {next : α → Action σ β} (h : Keeps I P Q a)
    (hnext : ∀ value, Q value → Keeps I P R (next value)) : Keeps I P R (a >>= next) := by
  intro s j hs
  have hout := h s j hs
  rw [outcome_bind]
  revert hout
  obtain ⟨result, state, journal⟩ := a.outcome s j
  rintro ⟨hstate, hresult⟩
  cases result with
  | error f => exact ⟨hstate, hresult⟩
  | ok value => exact hnext value hresult state journal hstate

theorem keeps_pure {value : α} (h : Q value) : Keeps I P Q (pure value) :=
  fun _ _ hs => ⟨hs, h⟩

theorem keeps_throw {f : Failure} (h : P f) : Keeps I P Q (throw f) :=
  fun _ _ hs => ⟨hs, h⟩

theorem keeps_ofExcept {result : Except Failure α} (h : Settles P Q result) :
    Keeps I P Q (ofExcept result) :=
  fun _ _ hs => ⟨hs, h⟩

theorem keeps_get : Keeps I P I get := fun _ _ hs => ⟨hs, hs⟩

theorem keeps_set {s : σ} (h : I s) : Keeps I P (fun _ => True) (MonadStateOf.set s) :=
  fun _ _ _ => ⟨h, trivial⟩

theorem keeps_modify {change : σ → σ} (h : ∀ s, I s → I (change s)) :
    Keeps I P (fun _ => True) (modify change) :=
  fun s _ hs => ⟨h s hs, trivial⟩

theorem keeps_log {level : Log.Level} {logger : String} {message : Text} :
    Keeps I P (fun _ => True) (log level logger message) :=
  fun _ _ hs => ⟨hs, trivial⟩

/-- A step that is tried never fails, and its value is what the step comes to. -/
theorem Keeps.attempt (h : Keeps I P Q a) : Keeps I P' (Settles P Q) a.attempt :=
  fun s j hs => h s j hs

theorem Keeps.onPart {part : σ → τ} {put : τ → σ → σ} {J : τ → Prop} {b : Action τ α}
    (h : Keeps J P Q b) (hpart : ∀ s, I s → J (part s)) (hput : ∀ s t, I s → J t → I (put t s)) :
    Keeps I P Q (b.onPart part put) := by
  intro s j hs
  obtain ⟨hstate, hresult⟩ := h (part s) j (hpart s hs)
  exact ⟨hput s _ hs hstate, hresult⟩

end Action

end QuestionBoard
