import QuestionBoard.Answer.Service
import QuestionBoard.Proofs.Cache.Working
import QuestionBoard.Proofs.Question.Keyed
import QuestionBoard.Proofs.Text.Points

/-!
What the answer service does to the questions that are stored and to the answers that are kept. An
answer is looked for, and kept, under the identifier that the stored question carries; `invalidate`
drops what is kept under the identifier that it is given.
-/

namespace QuestionBoard

open QuestionBoard.Action

/-- The answers of a source, when it gives any, are a function of the question. -/
def AnswersBy (γ : Type) [AnswerSource γ] (answerTo : Json → Text) : Prop :=
  ∀ (source : γ) (question : Json) (j : Journal) (answer : Text),
    (outcome (AnswerSource.answer question) source j).result = .ok answer → answer = answerTo question

structure EchoSource where

namespace EchoSource

def answerTo (question : Json) : Text := "Answer to " ++ question.display

instance : AnswerSource EchoSource where
  answer question := return answerTo question

theorem answersBy_answerTo : AnswersBy EchoSource answerTo := by
  intro source question j answer h
  exact (Except.ok.inj h).symm

end EchoSource

namespace AnswerService

theorem cacheKey_injective {id id' : QuestionId} (h : cacheKey id = cacheKey id') : id = id' := by
  rw [cacheKey, cacheKey, Text.append_right_inj] at h
  exact QuestionId.ext h

/-- Changing what is kept under one identifier changes it under no other. -/
theorem update_cacheKey (answers : Text → Option Text) (id other : QuestionId)
    (found : Option Text) : Function.update answers (cacheKey id) found (cacheKey other) =
      if other = id then found else answers (cacheKey other) := by
  by_cases h : other = id
  · rw [if_pos h, h, Function.update_self]
  · rw [if_neg h, Function.update_of_ne fun heq => h (cacheKey_injective heq)]

variable {σ κ γ : Type} [QuestionRepository σ] [KeyedRepository σ] [Cache κ] [WorkingCache κ]

/-- The store is sound, and these are the questions that it holds and the answers that a reader of
the cache would find. -/
structure Shows (s : AnswerService σ κ γ) (questions : QuestionId → Option Question)
    (answers : Text → Option Text) : Prop where
  sound : KeyedRepository.Sound s.questions
  questions : KeyedRepository.stored s.questions = questions
  answers : WorkingCache.lookup s.cache = answers

variable {s : AnswerService σ κ γ} {questions : QuestionId → Option Question}
  {answers : Text → Option Text} {id name : QuestionId}

theorem exists_outcome_invalidate (h : s.Shows questions answers) (id : QuestionId) (j : Journal) :
    ∃ dropped s' j', (invalidate id : Action (AnswerService σ κ γ) Bool).outcome s j =
        ⟨.ok dropped, s', j'⟩ ∧
      s'.Shows questions (Function.update answers (cacheKey id) none) := by
  obtain ⟨result, c', j', houtcome, hlookup, hresult⟩ :=
    WorkingCache.exists_outcome_delete s.cache (cacheKey id) j
  rw [h.answers] at hlookup
  rw [invalidate, outcome_bind, outcome_attempt, onCache, outcome_onPart, houtcome, andThen_ok]
  rcases hresult with rfl | rfl
  · exact ⟨_, _, _, rfl, h.sound, h.questions, hlookup⟩
  · exact ⟨_, _, _, rfl, h.sound, h.questions, hlookup⟩

theorem exists_outcome_kept (h : s.Shows questions answers) (id : QuestionId) (j : Journal) :
    ∃ s' j', (kept id : Action (AnswerService σ κ γ) (Option Text)).outcome s j =
        ⟨.ok (answers (cacheKey id)), s', j'⟩ ∧ s'.Shows questions answers := by
  obtain ⟨c', j', houtcome, hlookup⟩ := WorkingCache.exists_outcome_get s.cache (cacheKey id) j
  rw [h.answers] at houtcome hlookup
  rw [kept, outcome_bind, outcome_attempt, onCache, outcome_onPart, houtcome, andThen_ok]
  cases answers (cacheKey id) with
  | none => exact ⟨_, _, rfl, h.sound, h.questions, hlookup⟩
  | some answer => exact ⟨_, _, rfl, h.sound, h.questions, hlookup⟩

theorem exists_outcome_keep (h : s.Shows questions answers) (id : QuestionId) (answer : Text)
    (j : Journal) :
    ∃ s' j' found, (keep id answer : Action (AnswerService σ κ γ) Unit).outcome s j = ⟨.ok (), s', j'⟩ ∧
      s'.Shows questions (Function.update answers (cacheKey id) found) ∧
      (found = some answer ∨ found = none) := by
  obtain ⟨c', j', found, houtcome, hlookup, hfound⟩ :=
    WorkingCache.exists_outcome_set s.cache (cacheKey id) answer s.lifetime j
  rw [h.answers] at hlookup
  rw [keep, outcome_bind, outcome_get, andThen_ok, outcome_bind, outcome_attempt, onCache,
    outcome_onPart, houtcome, andThen_ok]
  exact ⟨_, _, found, rfl, ⟨h.sound, h.questions, hlookup⟩, hfound⟩

variable [AnswerSource γ] {answerTo : Json → Text} {q : Question}

/-- The answer to a stored question is the one that is kept, or a new one. -/
theorem exists_outcome_answerFor (hsource : AnswersBy γ answerTo) (h : s.Shows questions answers)
    (hname : KeyedRepository.named σ id = some name) (hq : questions name = some q) (j : Journal) :
    ∃ result s' j' found, (answerFor id : Action (AnswerService σ κ γ) Text).outcome s j =
        ⟨result, s', j'⟩ ∧
      s'.Shows questions (Function.update answers (cacheKey name) found) ∧
      (∀ answer, result = .ok answer → answer = (answers (cacheKey name)).getD (answerTo q.content)) ∧
      (∀ answer, found = some answer → answer = (answers (cacheKey name)).getD (answerTo q.content)) ∧
      ∀ answer, answers (cacheKey name) = some answer → result = .ok answer := by
  obtain ⟨questions', hget, hsound, hstored⟩ := KeyedRepository.exists_outcome_get h.sound hname
    (show KeyedRepository.stored s.questions name = some q by rw [h.questions, hq]) j
  have hid : q.id = name := KeyedRepository.id_of_stored h.sound (by rw [h.questions, hq])
  have hread : Shows { s with questions := questions' } questions answers :=
    ⟨hsound, hstored.trans h.questions, h.answers⟩
  obtain ⟨s₁, j₁, hkept, h₁⟩ := exists_outcome_kept hread q.id j
  rw [answerFor, outcome_bind, onQuestions, outcome_onPart, hget, andThen_ok, outcome_bind, hkept,
    andThen_ok, hid]
  cases hanswer : answers (cacheKey name) with
  | some answer =>
      refine ⟨.ok answer, s₁, j₁, some answer, rfl, ?_, by simp, by simp, by simp⟩
      rw [Function.update_eq_self_iff.mpr hanswer.symm]
      exact h₁
  | none =>
      simp only [Option.getD_none]
      rw [outcome_bind, onSource, outcome_onPart]
      cases hmade : (outcome (AnswerSource.answer q.content) s₁.source j₁).result with
      | error f =>
          refine ⟨.error f, _, _, none, rfl, ?_, by simp, by simp, by simp⟩
          rw [Function.update_eq_self_iff.mpr hanswer.symm]
          exact ⟨h₁.sound, h₁.questions, h₁.answers⟩
      | ok answer =>
          have hright := hsource _ _ _ _ hmade
          obtain ⟨s₂, j₂, found, hkeep, h₂, hfound⟩ := exists_outcome_keep
            (s := { s₁ with source := (outcome (AnswerSource.answer q.content) s₁.source j₁).state })
            ⟨h₁.sound, h₁.questions, h₁.answers⟩ name answer
            (outcome (AnswerSource.answer q.content) s₁.source j₁).journal
          rw [andThen_ok, outcome_bind, hkeep, andThen_ok]
          refine ⟨.ok answer, s₂, j₂, found, rfl, h₂, ?_, ?_, by simp⟩
          · intro answer' hanswer'
            rw [← Except.ok.inj hanswer', hright]
          · intro answer' hanswer'
            rcases hfound with rfl | rfl
            · rw [← Option.some.inj hanswer', hright]
            · cases hanswer'

theorem exists_outcome_answerFor_of_missing (h : s.Shows questions answers)
    (hmissing : (KeyedRepository.named σ id).bind questions = none) (j : Journal) :
    ∃ f s' j', (answerFor id : Action (AnswerService σ κ γ) Text).outcome s j = ⟨.error f, s', j'⟩ ∧
      s'.Shows questions answers := by
  rw [← h.questions] at hmissing
  obtain ⟨f, questions', hsound, hstored, -, -, hget⟩ := KeyedRepository.exists_outcome_of_missing
    h.sound hmissing j
  rw [answerFor, outcome_bind, onQuestions, outcome_onPart, hget, andThen_error]
  exact ⟨_, _, _, rfl, hsound, hstored.trans h.questions, h.answers⟩

end AnswerService

end QuestionBoard
