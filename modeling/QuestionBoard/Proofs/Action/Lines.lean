import QuestionBoard.Log.Timed
import QuestionBoard.Proofs.Action

/-!
Steps that write no line under a name. There is a rule for each way to build a step.
-/

namespace QuestionBoard

/-- What a journal comes to when no line is written under a name. -/
structure Journal.Elsewhere (logger : String) (j j' : Journal) : Prop where
  threshold : j'.threshold = j.threshold
  lines : ∃ added, j'.lines = j.lines ++ added ∧ ∀ line ∈ added, line.logger ≠ logger

namespace Journal.Elsewhere

variable {logger : String} {j j' j'' : Journal}

theorem refl (j : Journal) : Elsewhere logger j j := ⟨rfl, [], (List.append_nil _).symm, by simp⟩

theorem trans (h : Elsewhere logger j j') (h' : Elsewhere logger j' j'') : Elsewhere logger j j'' := by
  obtain ⟨added, hlines, hadded⟩ := h.lines
  obtain ⟨added', hlines', hadded'⟩ := h'.lines
  refine ⟨h'.threshold.trans h.threshold, added ++ added', ?_, fun line hline => ?_⟩
  · rw [hlines', hlines, List.append_assoc]
  · exact (List.mem_append.mp hline).elim (hadded line) (hadded' line)

theorem write {line : Log.Line} (h : line.logger ≠ logger) : Elsewhere logger j (j.write line) := by
  rw [Journal.write]
  split
  · exact ⟨rfl, [line], rfl, by simpa using h⟩
  · exact refl j

end Journal.Elsewhere

namespace Action

variable {σ τ α β : Type} {logger : String}

/-- Whether a step writes no line under a name. -/
def WritesElsewhere (logger : String) (a : Action σ α) : Prop :=
  ∀ s j, Journal.Elsewhere logger j (a.outcome s j).journal

variable {a : Action σ α}

theorem WritesElsewhere.of_outcome (h : WritesElsewhere logger a) {s : σ} {j : Journal} {o : Outcome σ α}
    (ho : a.outcome s j = o) : Journal.Elsewhere logger j o.journal := ho ▸ h s j

theorem WritesElsewhere.bind {next : α → Action σ β} (h : WritesElsewhere logger a)
    (hnext : ∀ value, WritesElsewhere logger (next value)) : WritesElsewhere logger (a >>= next) := by
  intro s j
  have hout := h s j
  rw [outcome_bind]
  generalize a.outcome s j = o at hout
  obtain ⟨_ | value, state, journal⟩ := o
  · exact hout
  · exact hout.trans (hnext value state journal)

theorem writesElsewhere_pure (value : α) : WritesElsewhere logger (pure value : Action σ α) :=
  fun _ j => .refl j

theorem writesElsewhere_throw (f : Failure) : WritesElsewhere logger (throw f : Action σ α) :=
  fun _ j => .refl j

theorem writesElsewhere_throw_bind (f : Failure) (next : α → Action σ β) :
    WritesElsewhere logger ((throw f : Action σ α) >>= next) := fun _ j => .refl j

theorem writesElsewhere_ofExcept (result : Except Failure α) :
    WritesElsewhere logger (ofExcept result : Action σ α) := fun _ j => .refl j

theorem writesElsewhere_get : WritesElsewhere logger (get : Action σ σ) := fun _ j => .refl j

theorem writesElsewhere_set (s : σ) : WritesElsewhere logger (MonadStateOf.set s : Action σ Unit) :=
  fun _ j => .refl j

theorem writesElsewhere_modify (change : σ → σ) : WritesElsewhere logger (modify change : Action σ Unit) :=
  fun _ j => .refl j

theorem writesElsewhere_log {level : Log.Level} {other : String} {message : Text} (h : other ≠ logger) :
    WritesElsewhere logger (log level other message : Action σ Unit) := fun _ _ => .write h

theorem WritesElsewhere.attempt (h : WritesElsewhere logger a) : WritesElsewhere logger a.attempt :=
  fun s j => h s j

theorem WritesElsewhere.onPart {part : τ → σ} {put : σ → τ → τ} (h : WritesElsewhere logger a) :
    WritesElsewhere logger (a.onPart part put) := fun s j => h (part s) j

theorem WritesElsewhere.timed {clock : Action σ Binary64} {other name : String}
    (hclock : WritesElsewhere logger clock) (hother : other ≠ logger) (h : WritesElsewhere logger a) :
    WritesElsewhere logger (timed clock other name a) := by
  unfold Action.timed
  refine hclock.bind fun start => h.attempt.bind fun result => hclock.bind fun reading => ?_
  cases result with
  | error f => exact (writesElsewhere_log hother).bind fun _ => writesElsewhere_throw f
  | ok value => exact (writesElsewhere_log hother).bind fun _ => writesElsewhere_pure value

end Action

end QuestionBoard
