import QuestionBoard.Proofs.Answer.Documented
import QuestionBoard.Proofs.Board.Run

/-!
Calls on the answer service, and runs of them. A source is watched: it keeps a record of what it was
asked and what it gave. `ServiceCall.Course` says what a call comes to over any cache that fails only
as caches may; between two calls of a run the questions may become any others, and the cache what it
comes to in time.
-/

namespace QuestionBoard

open QuestionBoard.Action

/-! ### Sources that are watched -/

/-- A source and what it was asked and gave, in order. -/
structure WatchedSource (γ : Type) where
  source : γ
  asked : List (Json × Except Failure Text) := []

instance {γ : Type} [AnswerSource γ] : AnswerSource (WatchedSource γ) where
  answer question := do
    let result ← (Action.onPart WatchedSource.source (fun source w => { w with source })
      (AnswerSource.answer question)).attempt
    modify fun w => { w with asked := w.asked ++ [(question, result)] }
    Action.ofExcept result

theorem WatchedSource.outcome_answer {γ : Type} [AnswerSource γ] (w : WatchedSource γ) (question : Json)
    (j : Journal) : outcome (AnswerSource.answer question) w j =
      let o := outcome (AnswerSource.answer question) w.source j
      ⟨o.result, ⟨o.state, w.asked ++ [(question, o.result)]⟩, o.journal⟩ := rfl

/-! ### Calls -/

inductive ServiceCall
  | answer (id : QuestionId)
  | invalidate (id : QuestionId)
  deriving DecidableEq

/-- What a call gives. -/
inductive ServiceReply
  | answer (answer : Text)
  /-- Whether an answer was dropped. -/
  | invalidated (dropped : Bool)
  deriving DecidableEq

namespace ServiceCall

variable {σ κ γ : Type} [QuestionRepository σ] [Cache κ] [AnswerSource γ]

def run : ServiceCall → Action (AnswerService σ κ γ) ServiceReply
  | answer id => do return .answer (← AnswerService.answerFor id)
  | invalidate id => do return .invalidated (← AnswerService.invalidate id)

def reply (call : ServiceCall) (m : Moment σ κ γ) : Except Failure ServiceReply :=
  (call.run.outcome m.service m.journal).result

def after (call : ServiceCall) (m : Moment σ κ γ) : Moment σ κ γ :=
  ⟨(call.run.outcome m.service m.journal).state, (call.run.outcome m.service m.journal).journal⟩

/-- What the source is asked, and gives, during a call. -/
def asks (call : ServiceCall) (m : Moment σ κ (WatchedSource γ)) : List (Json × Except Failure Text) :=
  (call.after m).service.source.asked.drop m.service.source.asked.length

/-- What a call does, over a cache that fails only as caches may. It is told by the outcomes of the
operations on the questions, on the cache and on the source. -/
inductive Course (m : Moment σ κ (WatchedSource γ)) : ServiceCall → Except Failure ServiceReply →
    List (Json × Except Failure Text) → Moment σ κ (WatchedSource γ) → Prop
  | unread {id f questions j} :
      outcome (QuestionRepository.get id) m.service.questions m.journal = ⟨.error f, questions, j⟩ →
      Course m (.answer id) (.error f) [] ⟨{ m.service with questions }, j⟩
  | reused {id q questions j answer cache j'} :
      outcome (QuestionRepository.get id) m.service.questions m.journal = ⟨.ok q, questions, j⟩ →
      outcome (Cache.get (AnswerService.cacheKey q.id)) m.service.cache j = ⟨.ok answer, cache, j'⟩ →
      Course m (.answer id) (.ok (.answer answer)) []
        ⟨{ m.service with questions, cache }, j'.report (AnswerService.readLine q.id (.ok answer))⟩
  | failed {id q questions j missing cache j₁ f source j₂} :
      outcome (QuestionRepository.get id) m.service.questions m.journal = ⟨.ok q, questions, j⟩ →
      outcome (Cache.get (AnswerService.cacheKey q.id)) m.service.cache j = ⟨.error missing, cache, j₁⟩ →
      outcome (AnswerSource.answer q.content) m.service.source.source
        (j₁.report (AnswerService.readLine q.id (.error missing))) = ⟨.error f, source, j₂⟩ →
      Course m (.answer id) (.error f) [(q.content, .error f)]
        ⟨{ m.service with
            questions
            cache
            source := ⟨source, m.service.source.asked ++ [(q.content, .error f)]⟩ }, j₂⟩
  | made {id q questions j missing cache₁ j₁ answer source j₂ written cache₂ j₃} :
      outcome (QuestionRepository.get id) m.service.questions m.journal = ⟨.ok q, questions, j⟩ →
      outcome (Cache.get (AnswerService.cacheKey q.id)) m.service.cache j = ⟨.error missing, cache₁, j₁⟩ →
      outcome (AnswerSource.answer q.content) m.service.source.source
        (j₁.report (AnswerService.readLine q.id (.error missing))) = ⟨.ok answer, source, j₂⟩ →
      outcome (Cache.set (AnswerService.cacheKey q.id) answer m.service.lifetime) cache₁ j₂ =
        ⟨written, cache₂, j₃⟩ →
      Course m (.answer id) (.ok (.answer answer)) [(q.content, .ok answer)]
        ⟨{ m.service with
            questions
            cache := cache₂
            source := ⟨source, m.service.source.asked ++ [(q.content, .ok answer)]⟩ },
          j₃.report (AnswerService.writeLine q.id written)⟩
  | invalidated {id result cache j} :
      outcome (Cache.delete (AnswerService.cacheKey id)) m.service.cache m.journal = ⟨result, cache, j⟩ →
      Course m (.invalidate id) (.ok (.invalidated result.isOk)) []
        ⟨{ m.service with cache }, j.report (AnswerService.dropLine id result)⟩

variable {m m' : Moment σ κ (WatchedSource γ)} {call : ServiceCall} {result : Except Failure ServiceReply}
  {asked : List (Json × Except Failure Text)}

theorem exists_course (call : ServiceCall) (m : Moment σ κ (WatchedSource γ)) :
    ∃ result asked m', Course m call result asked m' := by
  cases call with
  | invalidate id => exact ⟨_, _, _, .invalidated rfl⟩
  | answer id =>
      rcases hget : outcome (QuestionRepository.get id) m.service.questions m.journal with
        ⟨f | q, questions, j⟩
      · exact ⟨_, _, _, .unread hget⟩
      rcases hkept : outcome (Cache.get (AnswerService.cacheKey q.id)) m.service.cache j with
        ⟨missing | answer, cache, j₁⟩
      · rcases hmade : outcome (AnswerSource.answer q.content) m.service.source.source
          (j₁.report (AnswerService.readLine q.id (.error missing))) with ⟨f | answer, source, j₂⟩
        · exact ⟨_, _, _, .failed hget hkept hmade⟩
        · exact ⟨_, _, _, .made hget hkept hmade rfl⟩
      · exact ⟨_, _, _, .reused hget hkept⟩

theorem Course.asked_eq (h : Course m call result asked m') :
    m'.service.source.asked = m.service.source.asked ++ asked := by
  cases h with
  | failed | made => rfl
  | _ => exact (List.append_nil _).symm

variable [DocumentedCache κ]

theorem Course.outcome_run (h : Course m call result asked m') :
    call.run.outcome m.service m.journal = ⟨result, m'.service, m'.journal⟩ := by
  cases h with
  | invalidated hdelete =>
      rw [run, outcome_bind, AnswerService.outcome_invalidate, hdelete]
      rfl
  | unread hget =>
      rw [run, outcome_bind, AnswerService.answerFor, outcome_bind, AnswerService.onQuestions,
        outcome_onPart, hget]
      rfl
  | reused hget hkept =>
      rw [run, outcome_bind, AnswerService.answerFor, outcome_bind, AnswerService.onQuestions,
        outcome_onPart, hget, andThen_ok, outcome_bind, AnswerService.outcome_kept, hkept]
      rfl
  | failed hget hkept hmade =>
      rw [run, outcome_bind, AnswerService.answerFor, outcome_bind, AnswerService.onQuestions,
        outcome_onPart, hget, andThen_ok, outcome_bind, AnswerService.outcome_kept, hkept, andThen_ok]
      change Outcome.andThen ((AnswerService.onSource _ >>= _).outcome _ _) _ = _
      rw [outcome_bind, AnswerService.onSource, outcome_onPart, WatchedSource.outcome_answer, hmade]
      rfl
  | made hget hkept hmade hset =>
      rw [run, outcome_bind, AnswerService.answerFor, outcome_bind, AnswerService.onQuestions,
        outcome_onPart, hget, andThen_ok, outcome_bind, AnswerService.outcome_kept, hkept, andThen_ok]
      change Outcome.andThen ((AnswerService.onSource _ >>= _).outcome _ _) _ = _
      rw [outcome_bind, AnswerService.onSource, outcome_onPart, WatchedSource.outcome_answer, hmade,
        andThen_ok, outcome_bind, AnswerService.outcome_keep, hset]
      rfl

theorem course (call : ServiceCall) (m : Moment σ κ (WatchedSource γ)) :
    Course m call (call.reply m) (call.asks m) (call.after m) := by
  obtain ⟨result, asked, m', h⟩ := exists_course call m
  have hasks : call.asks m = asked := by
    rw [asks, after, h.outcome_run, h.asked_eq, List.drop_left]
  rw [hasks, reply, after, h.outcome_run]
  exact h

end ServiceCall

/-! ### Runs -/

section runs

variable {σ κ γ : Type} [QuestionRepository σ] [Cache κ] [AnswerSource γ]

/-- The calls that a service serves, each with the service before it. Between two calls the questions
may change, and time may pass for the cache. -/
inductive CallRun (Later : κ → κ → Prop) (start : Moment σ κ (WatchedSource γ)) :
    List (Moment σ κ (WatchedSource γ) × ServiceCall) → Moment σ κ (WatchedSource γ) → Prop
  | start : CallRun Later start [] start
  | serve {served m} (call : ServiceCall) :
      CallRun Later start served m → CallRun Later start (served ++ [(m, call)]) (call.after m)
  | change {served m} (questions : σ) : CallRun Later start served m →
      CallRun Later start served { m with service := { m.service with questions } }
  | pass {served m cache} : CallRun Later start served m → Later m.service.cache cache →
      CallRun Later start served (m.withCache cache)

/-- Whether the source made an answer during a call, to a question that was stored with an
identifier. -/
def ServiceCall.Makes (id : QuestionId) (answer : Text)
    (p : Moment σ κ (WatchedSource γ) × ServiceCall) : Prop :=
  ∃ target q, p.2 = .answer target ∧
    (outcome (QuestionRepository.get target) p.1.service.questions p.1.journal).result = .ok q ∧
    q.id = id ∧ p.2.asks p.1 = [(q.content, .ok answer)]

end runs

end QuestionBoard
