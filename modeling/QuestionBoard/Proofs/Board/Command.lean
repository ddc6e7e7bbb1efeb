import QuestionBoard.Board.Command
import QuestionBoard.Proofs.Answer.Service

/-!
What a command does to the questions that are stored and to the answers that are kept. `Effect` says
it once for all commands: nothing, for those that only read and for those that are refused; otherwise
what is added, replaced, removed or answered, and which kept answer is dropped or set.
-/

namespace QuestionBoard

open QuestionBoard.Action

namespace Command

def Reads : Command → Prop
  | .describe | .list _ | .find _ => True
  | .add _ | .replace _ _ | .remove _ | .answer _ => False

section Effect

variable (σ : Type) [QuestionRepository σ] [KeyedRepository σ]

/-- Whether a text is no identifier, or one that leads to no question. -/
def LeadsNowhere (questions : QuestionId → Option Question) (id : String) : Prop :=
  ∀ target, QuestionId.ofText id = .ok target → (KeyedRepository.named σ target).bind questions = none

/-- Whether a command is refused: it comes with no identifier, with one that leads nowhere, or with what
cannot be kept. -/
def Refused (questions : QuestionId → Option Question) : Command → Prop
  | .describe | .list _ | .find _ => False
  | .add draft => (∀ id, QuestionId.of (draft.id.getD .null) ≠ .ok id) ∨ KeyedRepository.kept σ draft = none
  | .replace id draft => LeadsNowhere σ questions id ∨ KeyedRepository.kept σ draft = none
  | .remove id | .answer id => LeadsNowhere σ questions id

def answerData (target : QuestionId) (answer : Text) : Json :=
  .object [("question_id", .text target.text), ("answer", .text answer)]

/-- The data of the response that a question was removed. -/
def removedData : Json := .object [("message", .text "Question deleted")]

/-- What a command comes to, and the questions and the kept answers after it. -/
inductive Effect (answerTo : Json → Text) (newId : QuestionId → QuestionId)
    (questions : QuestionId → Option Question) (answers : Text → Option Text) :
    Command → Except Failure Json → (QuestionId → Option Question) → (Text → Option Text) → Prop
  | read (command : Command) (hreads : command.Reads) (result : Except Failure Json) :
      Effect answerTo newId questions answers command result questions answers
  | refused (command : Command) (hrefused : command.Refused σ questions) (f : Failure) :
      Effect answerTo newId questions answers command (.error f) questions answers
  | added {draft draft' : QuestionDraft} {id : QuestionId}
      (hid : QuestionId.of (draft.id.getD .null) = .ok id)
      (hdraft : KeyedRepository.kept σ draft = some draft') (result : Except Failure Json) :
      Effect answerTo newId questions answers (.add draft) result
        (Function.update questions (newId id) (some (draft'.question (newId id)))) answers
  | replaced {id : String} {target name : QuestionId} {draft draft' : QuestionDraft}
      (hdraft : KeyedRepository.kept σ draft = some draft') (htarget : QuestionId.ofText id = .ok target)
      (hname : KeyedRepository.named σ target = some name)
      (hstored : (questions name).isSome) (result : Except Failure Json) :
      Effect answerTo newId questions answers (.replace id draft) result
        (Function.update questions name (some (draft'.question name)))
        (Function.update answers (AnswerService.cacheKey name) none)
  | removed {id : String} {target name : QuestionId}
      (htarget : QuestionId.ofText id = .ok target) (hname : KeyedRepository.named σ target = some name)
      (hstored : (questions name).isSome) :
      Effect answerTo newId questions answers (.remove id) (.ok removedData)
        (Function.update questions name none)
        (Function.update answers (AnswerService.cacheKey target) none)
  | answered {id : String} {target name : QuestionId} {q : Question}
      (htarget : QuestionId.ofText id = .ok target) (hname : KeyedRepository.named σ target = some name)
      (hq : questions name = some q) {result : Except Failure Json} {found : Option Text}
      (hresult : ∀ data, result = .ok data → data = answerData target
        ((answers (AnswerService.cacheKey name)).getD (answerTo q.content)))
      (hfound : ∀ answer, found = some answer →
        answer = (answers (AnswerService.cacheKey name)).getD (answerTo q.content))
      (hkept : (answers (AnswerService.cacheKey name)).isSome → ∃ data, result = .ok data) :
      Effect answerTo newId questions answers (.answer id) result questions
        (Function.update answers (AnswerService.cacheKey name) found)

end Effect

variable {σ κ γ : Type} [QuestionRepository σ] [KeyedRepository σ] [Cache κ] [WorkingCache κ]
  [AnswerSource γ] {answerTo : Json → Text} {s : AnswerService σ κ γ}
  {questions : QuestionId → Option Question} {answers : Text → Option Text}

/-- Doing a command has one of the effects that it can have. -/
def HasEffect (answerTo : Json → Text) (s : AnswerService σ κ γ)
    (questions : QuestionId → Option Question) (answers : Text → Option Text)
    (serviceName : Text) (command : Command) (j : Journal) : Prop :=
  ∃ result s' j' questions' answers', (command.run serviceName).outcome s j = ⟨result, s', j'⟩ ∧
    s'.Shows questions' answers' ∧
    Effect σ answerTo (KeyedRepository.newId s.questions) questions answers command result questions'
      answers'

variable (σ) in
/-- A text is no identifier, or leads to no question, or leads to one. -/
theorem lead_cases (questions : QuestionId → Option Question) (id : String) :
    (∃ f, QuestionId.ofText id = .error f) ∨
      (∃ target, QuestionId.ofText id = .ok target ∧
        (KeyedRepository.named σ target).bind questions = none) ∨
      ∃ target name q, QuestionId.ofText id = .ok target ∧
        KeyedRepository.named σ target = some name ∧ questions name = some q := by
  cases QuestionId.ofText id with
  | error f => exact Or.inl ⟨f, rfl⟩
  | ok target =>
      right
      cases hfound : (KeyedRepository.named σ target).bind questions with
      | none => exact Or.inl ⟨target, rfl, hfound⟩
      | some q =>
          obtain ⟨name, hname, hq⟩ := Option.bind_eq_some_iff.mp hfound
          exact Or.inr ⟨target, name, q, rfl, hname, hq⟩

theorem leadsNowhere_of_error {id : String} {f : Failure} (h : QuestionId.ofText id = .error f) :
    LeadsNowhere σ questions id := by
  intro target htarget
  rw [h] at htarget
  cases htarget

theorem leadsNowhere_of_ok {id : String} {target : QuestionId} (h : QuestionId.ofText id = .ok target)
    (hmissing : (KeyedRepository.named σ target).bind questions = none) :
    LeadsNowhere σ questions id := by
  intro target' htarget
  rw [← Except.ok.inj (h.symm.trans htarget)]
  exact hmissing

/-! ### One command after another -/

variable (serviceName : Text) (j : Journal)

theorem hasEffect_list (h : s.Shows questions answers) (parameters : Json) :
    HasEffect answerTo s questions answers serviceName (.list parameters) j := by
  rw [HasEffect, run, outcome_bind, outcome_ofExcept]
  cases Selection.ofParameters parameters with
  | error f => exact ⟨_, _, _, _, _, rfl, h, .read (.list parameters) trivial _⟩
  | ok selection =>
      obtain ⟨result, questions', hlist, hsound, hstored⟩ :=
        KeyedRepository.exists_outcome_list h.sound selection j
      have h' : AnswerService.Shows { s with questions := questions' } questions answers :=
        ⟨hsound, hstored.trans h.questions, h.answers⟩
      rw [andThen_ok, outcome_bind, AnswerService.onQuestions, outcome_onPart, hlist]
      cases result with
      | error f => exact ⟨_, _, _, _, _, rfl, h', .read (.list parameters) trivial _⟩
      | ok qs =>
          rw [andThen_ok, outcome_ofExcept_bind_pure]
          exact ⟨_, _, _, _, _, rfl, h', .read (.list parameters) trivial _⟩

theorem hasEffect_find (h : s.Shows questions answers) (id : String) :
    HasEffect answerTo s questions answers serviceName (.find id) j := by
  rw [HasEffect, run, outcome_bind, outcome_ofExcept]
  rcases lead_cases σ questions id with
    ⟨f, hid⟩ | ⟨target, hid, hmissing⟩ | ⟨target, name, q, hid, hname, hq⟩
  · rw [hid]
    exact ⟨_, _, _, _, _, rfl, h, .read (.find id) trivial _⟩
  · rw [← h.questions] at hmissing
    obtain ⟨f, questions', hsound, hstored, -, -, hget⟩ :=
      KeyedRepository.exists_outcome_of_missing h.sound hmissing j
    rw [hid, andThen_ok, outcome_bind, AnswerService.onQuestions, outcome_onPart, hget]
    exact ⟨_, _, _, _, _, rfl, ⟨hsound, hstored.trans h.questions, h.answers⟩,
      .read (.find id) trivial _⟩
  · rw [← h.questions] at hq
    obtain ⟨questions', hget, hsound, hstored⟩ := KeyedRepository.exists_outcome_get h.sound hname hq j
    rw [hid, andThen_ok, outcome_bind, AnswerService.onQuestions, outcome_onPart, hget]
    exact ⟨_, _, _, _, _, rfl, ⟨hsound, hstored.trans h.questions, h.answers⟩,
      .read (.find id) trivial _⟩

theorem hasEffect_add (h : s.Shows questions answers) (draft : QuestionDraft) :
    HasEffect answerTo s questions answers serviceName (.add draft) j := by
  rw [HasEffect, run, outcome_bind, outcome_ofExcept]
  cases hid : QuestionId.of (draft.id.getD .null) with
  | error f =>
      have hrefused : Refused σ questions (.add draft) := by
        refine Or.inl fun id hid' => ?_
        rw [hid] at hid'
        cases hid'
      exact ⟨_, _, _, _, _, rfl, h, .refused (.add draft) hrefused f⟩
  | ok id =>
      rw [andThen_ok, outcome_bind, AnswerService.onQuestions, outcome_onPart]
      cases hdraft : KeyedRepository.kept σ draft with
      | none =>
          obtain ⟨⟨f, questions', hadd, hsound, hstored⟩, -⟩ :=
            KeyedRepository.exists_outcome_of_unkept h.sound hdraft id j
          rw [hadd]
          exact ⟨_, _, _, _, _, rfl, ⟨hsound, hstored.trans h.questions, h.answers⟩,
            .refused (.add draft) (Or.inr hdraft) f⟩
      | some draft' =>
          obtain ⟨questions', j', hadd, hsound, hstored⟩ :=
            KeyedRepository.exists_outcome_add h.sound hdraft id j
          rw [h.questions] at hstored
          rw [hadd]
          exact ⟨_, _, _, _, _, rfl, ⟨hsound, hstored, h.answers⟩, .added hid hdraft _⟩

theorem hasEffect_replace (h : s.Shows questions answers) (id : String) (draft : QuestionDraft) :
    HasEffect answerTo s questions answers serviceName (.replace id draft) j := by
  rw [HasEffect, run, outcome_bind, outcome_ofExcept]
  cases hid : QuestionId.ofText id with
  | error f =>
      exact ⟨_, _, _, _, _, rfl, h, .refused (.replace id draft) (Or.inl (leadsNowhere_of_error hid)) f⟩
  | ok target =>
      rw [andThen_ok, outcome_bind, AnswerService.onQuestions, outcome_onPart]
      cases hdraft : KeyedRepository.kept σ draft with
      | none =>
          obtain ⟨-, f, questions', hupdate, hsound, hstored⟩ :=
            KeyedRepository.exists_outcome_of_unkept h.sound hdraft target j
          rw [hupdate]
          exact ⟨_, _, _, _, _, rfl, ⟨hsound, hstored.trans h.questions, h.answers⟩,
            .refused (.replace id draft) (Or.inr hdraft) f⟩
      | some draft' =>
          cases hfound : (KeyedRepository.named σ target).bind questions with
          | none =>
              have hrefused := leadsNowhere_of_ok hid hfound
              rw [← h.questions] at hfound
              obtain ⟨f, questions', hsound, hstored, hupdate, -, -⟩ :=
                KeyedRepository.exists_outcome_of_missing h.sound hfound j
              rw [hupdate draft (by simp [hdraft])]
              exact ⟨_, _, _, _, _, rfl, ⟨hsound, hstored.trans h.questions, h.answers⟩,
                .refused (.replace id draft) (Or.inl hrefused) f⟩
          | some q =>
              obtain ⟨name, hname, hq⟩ := Option.bind_eq_some_iff.mp hfound
              have hsome : (KeyedRepository.stored s.questions name).isSome := by simp [h.questions, hq]
              obtain ⟨questions', hupdate, hsound, hstored⟩ :=
                KeyedRepository.exists_outcome_update h.sound hdraft hname hsome j
              rw [h.questions] at hstored
              have h' : AnswerService.Shows { s with questions := questions' } _ answers :=
                ⟨hsound, hstored, h.answers⟩
              obtain ⟨_, s₁, j₁, hinvalidate, h₁⟩ := AnswerService.exists_outcome_invalidate h' name j
              rw [hupdate, andThen_ok, outcome_bind, draft'.question_id, hinvalidate]
              exact ⟨_, _, _, _, _, rfl, h₁, .replaced hdraft hid hname (by simp [hq]) _⟩

theorem hasEffect_remove (h : s.Shows questions answers) (id : String) :
    HasEffect answerTo s questions answers serviceName (.remove id) j := by
  rw [HasEffect, run, outcome_bind, outcome_ofExcept]
  rcases lead_cases σ questions id with
    ⟨f, hid⟩ | ⟨target, hid, hmissing⟩ | ⟨target, name, q, hid, hname, hq⟩
  · rw [hid]
    exact ⟨_, _, _, _, _, rfl, h, .refused (.remove id) (leadsNowhere_of_error hid) f⟩
  · have hrefused := leadsNowhere_of_ok hid hmissing
    rw [← h.questions] at hmissing
    obtain ⟨f, questions', hsound, hstored, -, hdelete, -⟩ :=
      KeyedRepository.exists_outcome_of_missing h.sound hmissing j
    rw [hid, andThen_ok, outcome_bind, AnswerService.onQuestions, outcome_onPart, hdelete]
    exact ⟨_, _, _, _, _, rfl, ⟨hsound, hstored.trans h.questions, h.answers⟩,
      .refused (.remove id) hrefused f⟩
  · have hsome : (KeyedRepository.stored s.questions name).isSome := by simp [h.questions, hq]
    obtain ⟨questions', hdelete, hsound, hstored⟩ :=
      KeyedRepository.exists_outcome_delete h.sound hname hsome j
    rw [h.questions] at hstored
    have h' : AnswerService.Shows { s with questions := questions' } _ answers :=
      ⟨hsound, hstored, h.answers⟩
    obtain ⟨_, s₁, j₁, hinvalidate, h₁⟩ := AnswerService.exists_outcome_invalidate h' target j
    rw [hid, andThen_ok, outcome_bind, AnswerService.onQuestions, outcome_onPart, hdelete, andThen_ok,
      outcome_bind, hinvalidate]
    exact ⟨_, _, _, _, _, rfl, h₁, .removed hid hname (by simp [hq])⟩

theorem hasEffect_answer (hsource : AnswersBy γ answerTo) (h : s.Shows questions answers) (id : String) :
    HasEffect answerTo s questions answers serviceName (.answer id) j := by
  rw [HasEffect, run, outcome_bind, outcome_ofExcept]
  rcases lead_cases σ questions id with
    ⟨f, hid⟩ | ⟨target, hid, hmissing⟩ | ⟨target, name, q, hid, hname, hq⟩
  · rw [hid]
    exact ⟨_, _, _, _, _, rfl, h, .refused (.answer id) (leadsNowhere_of_error hid) f⟩
  · obtain ⟨f, s₁, j₁, hanswer, h₁⟩ := AnswerService.exists_outcome_answerFor_of_missing h hmissing j
    rw [hid, andThen_ok, outcome_bind, hanswer]
    exact ⟨_, _, _, _, _, rfl, h₁, .refused (.answer id) (leadsNowhere_of_ok hid hmissing) f⟩
  · obtain ⟨result, s₁, j₁, found, hanswer, h₁, hresult, hfound, hkept⟩ :=
      AnswerService.exists_outcome_answerFor hsource h hname hq j
    rw [hid, andThen_ok, outcome_bind, hanswer]
    refine ⟨result.map (answerData target), s₁, j₁, _, _, ?_, h₁, .answered hid hname hq ?_ hfound ?_⟩
    · cases result <;> rfl
    · intro data hdata
      cases result with
      | error f => cases hdata
      | ok answer =>
          rw [← hresult answer rfl]
          exact (Except.ok.inj hdata).symm
    · intro hsome
      obtain ⟨answer, hanswer⟩ := Option.isSome_iff_exists.mp hsome
      rw [hkept answer hanswer]
      exact ⟨_, rfl⟩

theorem hasEffect (hsource : AnswersBy γ answerTo) (h : s.Shows questions answers) (command : Command) :
    HasEffect answerTo s questions answers serviceName command j := by
  cases command with
  | describe => exact ⟨_, s, j, _, _, rfl, h, .read .describe trivial _⟩
  | list parameters => exact hasEffect_list serviceName j h parameters
  | find id => exact hasEffect_find serviceName j h id
  | add draft => exact hasEffect_add serviceName j h draft
  | replace id draft => exact hasEffect_replace serviceName j h id draft
  | remove id => exact hasEffect_remove serviceName j h id
  | answer id => exact hasEffect_answer serviceName j hsource h id

/-! ### Kept answers -/

section Current

variable {newId : QuestionId → QuestionId} {questions' : QuestionId → Option Question}
  {answers' : Text → Option Text} {command : Command} {result : Except Failure Json}

/-- Whether each kept answer that can be given, which is all characters, is the answer to the question that
is stored under its identifier. -/
def Current (answerTo : Json → Text) (questions : QuestionId → Option Question)
    (answers : Text → Option Text) : Prop :=
  ∀ id answer, answers (AnswerService.cacheKey id) = some answer → answer.Whole →
    ∃ q, questions id = some q ∧ answer = answerTo q.content

/-- An answer that is given, kept or new, is the answer to the stored question. -/
theorem Current.getD_eq (h : Current answerTo questions answers) {id : QuestionId} {q : Question}
    (hq : questions id = some q)
    (hwhole : ((answers (AnswerService.cacheKey id)).getD (answerTo q.content)).Whole) :
    (answers (AnswerService.cacheKey id)).getD (answerTo q.content) = answerTo q.content := by
  cases hanswer : answers (AnswerService.cacheKey id) with
  | none => rfl
  | some answer =>
      rw [hanswer] at hwhole
      obtain ⟨q', hq', hcurrent⟩ := h id answer hanswer hwhole
      rw [Option.getD_some, hcurrent, Option.some.inj (hq.symm.trans hq')]

/-- Kept answers stay current, unless a question is added in the place of one whose kept answer is
not its own, or is removed by another identifier than its own while its answer is kept. -/
theorem Effect.current (h : Effect σ answerTo newId questions answers command result questions' answers')
    (hcurrent : Current answerTo questions answers)
    (hadd : ∀ draft draft' id answer, command = .add draft → QuestionId.of (draft.id.getD .null) = .ok id →
      KeyedRepository.kept σ draft = some draft' → answers (AnswerService.cacheKey (newId id)) = some answer →
      answer.Whole → answer = answerTo (.text draft'.content))
    (hremove : ∀ id target name answer, command = .remove id → QuestionId.ofText id = .ok target →
      KeyedRepository.named σ target = some name → (questions name).isSome →
      answers (AnswerService.cacheKey name) = some answer → answer.Whole → target = name) :
    Current answerTo questions' answers' := by
  intro id answer hkept hwhole
  cases h with
  | read command hreads result => exact hcurrent id answer hkept hwhole
  | refused command hrefused f => exact hcurrent id answer hkept hwhole
  | @added draft draft' id' hid hdraft result =>
      rw [Function.update_apply]
      by_cases hnew : id = newId id'
      · rw [if_pos hnew]
        exact ⟨_, rfl, hadd draft draft' id' answer rfl hid hdraft (hnew ▸ hkept) hwhole⟩
      · rw [if_neg hnew]
        exact hcurrent id answer hkept hwhole
  | @replaced _ _ name draft draft' hdraft htarget hname hstored result =>
      rw [AnswerService.update_cacheKey] at hkept
      rw [Function.update_apply]
      by_cases hid : id = name
      · rw [if_pos hid] at hkept
        cases hkept
      · rw [if_neg hid] at hkept ⊢
        exact hcurrent id answer hkept hwhole
  | @removed _ target name htarget hname hstored =>
      rw [AnswerService.update_cacheKey] at hkept
      rw [Function.update_apply]
      by_cases hid : id = target
      · rw [if_pos hid] at hkept
        cases hkept
      · rw [if_neg hid] at hkept
        have hne : id ≠ name := by
          rintro rfl
          exact hid (hremove _ target id answer rfl htarget hname hstored hkept hwhole).symm
        rw [if_neg hne]
        exact hcurrent id answer hkept hwhole
  | @answered _ _ name q htarget hname hq result found hresult hfound hkept' =>
      rw [AnswerService.update_cacheKey] at hkept
      by_cases hid : id = name
      · rw [if_pos hid] at hkept
        have hgiven := hfound answer hkept
        refine ⟨q, hid ▸ hq, hgiven.trans (hcurrent.getD_eq hq ?_)⟩
        rwa [← hgiven]
      · rw [if_neg hid] at hkept
        exact hcurrent id answer hkept hwhole

/-- An answer that is kept under an identifier was kept there before, or is one that was asked for. -/
theorem Effect.kept_or_answer
    (h : Effect σ answerTo newId questions answers command result questions' answers') {id : QuestionId}
    (hkept : (answers' (AnswerService.cacheKey id)).isSome) :
    (answers (AnswerService.cacheKey id)).isSome ∨ ∃ text target, command = .answer text ∧
      QuestionId.ofText text = .ok target ∧ KeyedRepository.named σ target = some id := by
  have hupdate : ∀ other, ((Function.update answers (AnswerService.cacheKey other) none)
      (AnswerService.cacheKey id)).isSome → (answers (AnswerService.cacheKey id)).isSome := by
    intro other hsome
    rw [AnswerService.update_cacheKey] at hsome
    by_cases hid : id = other
    · rw [if_pos hid] at hsome
      cases hsome
    · rw [if_neg hid] at hsome
      exact hsome
  cases h with
  | read command hreads result => exact Or.inl hkept
  | refused command hrefused f => exact Or.inl hkept
  | added hid hdraft result => exact Or.inl hkept
  | replaced hdraft htarget hname hstored result => exact Or.inl (hupdate _ hkept)
  | removed htarget hname hstored => exact Or.inl (hupdate _ hkept)
  | @answered text target name q htarget hname hq result found hresult hfound hkept' =>
      rw [AnswerService.update_cacheKey] at hkept
      by_cases hid : id = name
      · exact Or.inr ⟨text, target, rfl, htarget, hid ▸ hname⟩
      · rw [if_neg hid] at hkept
        exact Or.inl hkept

end Current

end Command

end QuestionBoard
