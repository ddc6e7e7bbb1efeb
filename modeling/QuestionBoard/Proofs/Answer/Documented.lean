import QuestionBoard.Proofs.Answer.Service
import QuestionBoard.Proofs.Question.Textual

/-!
Answers when the cache or the source of answers fails. Whatever a cache does that caches may do is
passed by, so an answer fails only as reading its question or making it anew does.
-/

namespace QuestionBoard

open QuestionBoard.Action

/-! ### Caches and sources -/

/-- Caches that fail as every cache may: with a key that is absent, or in the cache itself. -/
class DocumentedCache (κ : Type) [Cache κ] : Prop where
  kind_of_get (c : κ) (key : Text) (j : Journal) (f : Failure) :
    (outcome (Cache.get key) c j).result = .error f → f.kind = .notFound ∨ f.kind = .internal
  kind_of_set (c : κ) (key value : Text) (expiration : Option Duration) (j : Journal) (f : Failure) :
    (outcome (Cache.set key value expiration) c j).result = .error f → f.kind = .internal
  kind_of_delete (c : κ) (key : Text) (j : Journal) (f : Failure) :
    (outcome (Cache.delete key) c j).result = .error f → f.kind = .notFound ∨ f.kind = .internal

/-- Sources that fail as every source may, when they are asked with a text: in the source itself. -/
class DocumentedSource (γ : Type) [AnswerSource γ] : Prop where
  kind_of_answer (source : γ) (s : Text) (j : Journal) (f : Failure) :
    (outcome (AnswerSource.answer (.text s)) source j).result = .error f → f.kind = .internal

/-- A cache that works fails only with absent keys. -/
instance {κ : Type} [Cache κ] [WorkingCache κ] : DocumentedCache κ where
  kind_of_get c key j f h := by
    obtain ⟨c', j', hget, -⟩ := WorkingCache.exists_outcome_get c key j
    rw [hget] at h
    cases hlookup : WorkingCache.lookup c key with
    | none =>
        rw [hlookup] at h
        cases h
        exact Or.inl rfl
    | some value =>
        rw [hlookup] at h
        cases h
  kind_of_set c key value expiration j f h := by
    obtain ⟨c', j', kept, hset, -⟩ := WorkingCache.exists_outcome_set c key value expiration j
    rw [hset] at h
    cases h
  kind_of_delete c key j f h := by
    obtain ⟨result, c', j', hdelete, -, hresult⟩ := WorkingCache.exists_outcome_delete c key j
    rw [hdelete] at h
    rcases hresult with rfl | rfl
    · cases h
    · cases h
      exact Or.inl rfl

instance : DocumentedSource EchoSource where
  kind_of_answer source s j f h := by cases h

/-! ### What the service makes of its cache -/

def Journal.report (line : Option Log.Line) (j : Journal) : Journal := line.elim j j.write

namespace AnswerService

variable {σ κ γ : Type}

def readLine (id : QuestionId) : Except Failure Text → Option Log.Line
  | .ok _ => some ⟨.debug, logger, "Answer for question " ++ id.text ++ " served from cache"⟩
  | .error (.internal reason cause) => some ⟨.warning, logger,
      "Answer cache read failed for question " ++ id.text ++ ": " ++ (Failure.internal reason cause).message⟩
  | .error _ => none

def writeLine (id : QuestionId) : Except Failure Unit → Option Log.Line
  | .error (.internal reason cause) => some ⟨.warning, logger,
      "Answer cache write failed for question " ++ id.text ++ ": " ++ (Failure.internal reason cause).message⟩
  | _ => none

/-- The line about a deletion from the cache. -/
def dropLine (id : QuestionId) : Except Failure Unit → Option Log.Line
  | .error (.internal reason cause) => some ⟨.error, logger,
      "Could not invalidate cached answer for question " ++ id.text ++ ": " ++
        (Failure.internal reason cause).message⟩
  | _ => none

variable [Cache κ] [DocumentedCache κ] (id : QuestionId) (s : AnswerService σ κ γ) (j : Journal)

theorem outcome_kept : (kept id).outcome s j =
    let o := outcome (Cache.get (cacheKey id)) s.cache j
    ⟨.ok o.result.toOption, { s with cache := o.state }, o.journal.report (readLine id o.result)⟩ := by
  have hkind := DocumentedCache.kind_of_get s.cache (cacheKey id) j
  rw [kept, outcome_bind, outcome_attempt, onCache, outcome_onPart, andThen_ok]
  generalize outcome (Cache.get (cacheKey id)) s.cache j = o at hkind ⊢
  rcases o with ⟨f | answer, cache, j'⟩
  · cases f with
    | notFound resource id => rfl
    | internal reason cause => rfl
    | _ => simpa [Failure.kind] using hkind _ rfl
  · rfl

theorem outcome_keep (answer : Text) : (keep id answer).outcome s j =
    let o := outcome (Cache.set (cacheKey id) answer s.lifetime) s.cache j
    ⟨.ok (), { s with cache := o.state }, o.journal.report (writeLine id o.result)⟩ := by
  have hkind := DocumentedCache.kind_of_set s.cache (cacheKey id) answer s.lifetime j
  rw [keep, outcome_bind, outcome_get, andThen_ok, outcome_bind, outcome_attempt, onCache,
    outcome_onPart, andThen_ok]
  generalize outcome (Cache.set (cacheKey id) answer s.lifetime) s.cache j = o at hkind ⊢
  rcases o with ⟨f | _, cache, j'⟩
  · cases f with
    | internal reason cause => rfl
    | _ => simpa [Failure.kind] using hkind _ rfl
  · rfl

theorem outcome_invalidate : (invalidate id).outcome s j =
    let o := outcome (Cache.delete (cacheKey id)) s.cache j
    ⟨.ok o.result.isOk, { s with cache := o.state }, o.journal.report (dropLine id o.result)⟩ := by
  have hkind := DocumentedCache.kind_of_delete s.cache (cacheKey id) j
  rw [invalidate, outcome_bind, outcome_attempt, onCache, outcome_onPart, andThen_ok]
  generalize outcome (Cache.delete (cacheKey id)) s.cache j = o at hkind ⊢
  rcases o with ⟨f | _, cache, j'⟩
  · cases f with
    | notFound resource id => rfl
    | internal reason cause => rfl
    | _ => simpa [Failure.kind] using hkind _ rfl
  · rfl

end AnswerService

/-! ### The service -/

namespace AnswerService

variable {σ κ γ α : Type} {I : σ → Prop} {P : Failure → Prop} {Q : α → Prop}

/-- Whether a predicate holds of the store of a service. -/
def Stores (I : σ → Prop) (s : AnswerService σ κ γ) : Prop := I s.questions

theorem keeps_onQuestions {a : Action σ α} (h : Keeps I P Q a) :
    Keeps (Stores I) P Q (onQuestions a : Action (AnswerService σ κ γ) α) :=
  h.onPart (fun _ hs => hs) fun _ _ _ ht => ht

theorem keeps_onCache {a : Action κ α} (h : ∀ c j f, (a.outcome c j).result = .error f → P f) :
    Keeps (Stores I) P (fun _ => True) (onCache a : Action (AnswerService σ κ γ) α) :=
  fun s j hs => ⟨hs, settles_of_error (h s.cache j)⟩

theorem keeps_onSource {a : Action γ α} (h : ∀ source j f, (a.outcome source j).result = .error f → P f) :
    Keeps (Stores I) P (fun _ => True) (onSource a : Action (AnswerService σ κ γ) α) :=
  fun s j hs => ⟨hs, settles_of_error (h s.source j)⟩

section cache

variable [Cache κ] [DocumentedCache κ]

theorem keeps_kept (id : QuestionId) :
    Keeps (Stores I) P (fun _ => True)
      (kept id : Action (AnswerService σ κ γ) (Option Text)) := by
  unfold kept
  refine (keeps_onCache fun c => DocumentedCache.kind_of_get c _).attempt.bind fun result hresult => ?_
  rcases result with f | answer
  · cases f with
    | notFound resource id => exact keeps_pure trivial
    | internal reason cause => exact keeps_log.bind fun _ _ => keeps_pure trivial
    | _ => simp [Settles, Failure.kind] at hresult
  · exact keeps_log.bind fun _ _ => keeps_pure trivial

theorem keeps_keep (id : QuestionId) (answer : Text) :
    Keeps (Stores I) P (fun _ => True)
      (keep id answer : Action (AnswerService σ κ γ) Unit) := by
  unfold keep
  refine keeps_get.bind fun s _ => ?_
  refine (keeps_onCache fun c => DocumentedCache.kind_of_set c _ _ _).attempt.bind fun result hresult => ?_
  rcases result with f | _
  · cases f with
    | internal reason cause => exact keeps_log
    | _ => simp [Settles, Failure.kind] at hresult
  · exact keeps_pure trivial

theorem keeps_invalidate (id : QuestionId) :
    Keeps (Stores I) P (fun _ => True)
      (invalidate id : Action (AnswerService σ κ γ) Bool) := by
  unfold invalidate
  refine (keeps_onCache fun c => DocumentedCache.kind_of_delete c _).attempt.bind fun result hresult => ?_
  rcases result with f | _
  · cases f with
    | notFound resource id => exact keeps_pure trivial
    | internal reason cause => exact keeps_log.bind fun _ _ => keeps_pure trivial
    | _ => simp [Settles, Failure.kind] at hresult
  · exact keeps_pure trivial

end cache

variable [QuestionRepository σ] [Cache κ] [DocumentedCache κ] [AnswerSource γ] [DocumentedSource γ]
  {tooLong : QuestionId → Prop} {writes : Text → Prop}

theorem keeps_answerFor (h : QuestionRepository.KeepsTexts I tooLong writes) (id : QuestionId) :
    Keeps (Stores I) (Failure.Expected (tooLong id)) (fun _ => True)
      (answerFor id : Action (AnswerService σ κ γ) Text) := by
  unfold answerFor
  refine (keeps_onQuestions (h.get id)).bind fun q hq => ?_
  refine (keeps_kept q.id).bind fun found _ => ?_
  cases found with
  | some answer => exact keeps_pure trivial
  | none =>
      obtain ⟨draft, hdraft⟩ := hq
      have hcontent : q.content = .text draft.content := by rw [hdraft]; rfl
      refine (keeps_onSource fun source j f hf => ?_).bind fun answer _ =>
        (keeps_keep q.id answer).bind fun _ _ => keeps_pure trivial
      rw [hcontent] at hf
      exact Or.inl (Or.inr (Or.inl (DocumentedSource.kind_of_answer source draft.content j f hf)))

end AnswerService

end QuestionBoard
