import QuestionBoard.Proofs.Answer.Documented
import QuestionBoard.Proofs.Answer.Task

/-!
Tasks that ask for the answer to one stored question, and tasks that replace it, in any order of their
steps. A task that has read the question may be overtaken: another one replaces the question and drops
the kept answer, and then the first one keeps the answer to what it has read. Once all tasks have ended
the kept answer is the one to the question that is stored, if there is any, unless the last that was
done to it is the keeping of another answer by a task that was overtaken.
-/

namespace QuestionBoard

open QuestionBoard.Action

variable {ι σ κ γ : Type} [DecidableEq ι] [QuestionRepository σ] [Cache κ] [AnswerSource γ]

/-! ### Runs -/

/-- The steps that tasks have taken from a start, each with the task as it was. -/
inductive AnswerTasks.Run (start : AnswerTasks ι σ κ γ) :
    List (ι × AnswerTask) → AnswerTasks ι σ κ γ → Prop
  | start : Run start [] start
  | step {trace : List (ι × AnswerTask)} {t : AnswerTasks ι σ κ γ} (i : ι) :
      Run start trace t → (t.tasks i).isDone = false → Run start (trace ++ [(i, t.tasks i)]) (t.step i)

namespace AnswerTask

def changesKept : AnswerTask → Bool
  | keeping _ _ | dropping _ => true
  | _ => false

/-- The question that the task has read and will keep the answer to, unless one is kept. -/
def read? : AnswerTask → Option Question
  | looking q | asking q | keeping q _ => some q
  | _ => none

/-- Whether a task that has not ended works on the question with an identifier. -/
def WorksOn (σ : Type) [QuestionRepository σ] [KeyedRepository σ] (name : QuestionId) : AnswerTask → Prop
  | reading id => KeyedRepository.named σ id = some name
  | looking q | asking q | keeping q _ | dropping q => q.id = name
  | replacing q => ∃ (draft : QuestionDraft) (id : QuestionId),
      q = draft.question id ∧ KeyedRepository.named σ id = some name
  | answered _ | replaced _ => True

/-- Whether the task has not begun yet. -/
def isNew : AnswerTask → Bool
  | reading _ | replacing _ => true
  | _ => false

end AnswerTask

/-- Whether a task in a trace was overtaken before it kept an answer: it had read the question before
another task replaced it, and kept the answer when that task had dropped the kept one. -/
def Overtaken (trace : List (ι × AnswerTask)) (i : ι) (q : Question) (answer : Text) : Prop :=
  ∃ id p r r', [(i, .reading id), (p, .replacing r), (p, .dropping r'), (i, .keeping q answer)].Sublist trace

/-- Whether the last that was done to the kept answer is that a task kept this one, and the task was
overtaken. -/
def EndsLate (trace : List (ι × AnswerTask)) (answer : Text) : Prop :=
  ∃ i q, (trace.filter fun step => step.2.changesKept).getLast? = some (i, .keeping q answer) ∧
    Overtaken trace i q answer

omit [DecidableEq ι] in
theorem EndsLate.append {trace : List (ι × AnswerTask)} {step : ι × AnswerTask} {answer : Text}
    (hquiet : step.2.changesKept = false) (h : EndsLate trace answer) :
    EndsLate (trace ++ [step]) answer := by
  obtain ⟨i, q, hlast, id, p, r, r', hsub⟩ := h
  refine ⟨i, q, ?_, id, p, r, r', hsub.trans (List.sublist_append_left ..)⟩
  rw [List.filter_append, List.filter_singleton, hquiet]
  simpa using hlast

/-! ### One step -/

variable [KeyedRepository σ] [LastingCache κ] {answerTo : Json → Text} {name : QuestionId}
  {t : AnswerTasks ι σ κ γ} {q : Question} {kept : Option Text} {i : ι}

/-- The question that is stored under an identifier and the answer that is kept to it, forever. -/
structure AnswerService.Holds (s : AnswerService σ κ γ) (name : QuestionId) (q : Question)
    (kept : Option Text) : Prop where
  sound : KeyedRepository.Sound s.questions
  question : KeyedRepository.stored s.questions name = some q
  kept : WorkingCache.lookup s.cache (AnswerService.cacheKey name) = kept
  lifetime : s.lifetime = none

/-- What a step makes of a task, of the stored question and of the kept answer. -/
inductive AnswerTask.Moves (answerTo : Json → Text) (q : Question) (kept : Option Text) :
    AnswerTask → AnswerTask → Question → Option Text → Prop
  | read (id : QuestionId) : Moves answerTo q kept (.reading id) (.looking q) q kept
  | found (r : Question) (answer : Text) : kept = some answer →
      Moves answerTo q kept (.looking r) (.answered (.ok answer)) q kept
  | missed (r : Question) : kept = none → Moves answerTo q kept (.looking r) (.asking r) q kept
  | made (r : Question) : Moves answerTo q kept (.asking r) (.keeping r (answerTo r.content)) q kept
  | failed (r : Question) (f : Failure) : Moves answerTo q kept (.asking r) (.answered (.error f)) q kept
  | keep (r : Question) (answer : Text) :
      Moves answerTo q kept (.keeping r answer) (.answered (.ok answer)) q (some answer)
  | replace (r stored : Question) : Moves answerTo q kept (.replacing r) (.dropping stored) stored kept
  | refused (r : Question) (f : Failure) : Moves answerTo q kept (.replacing r) (.replaced (.error f)) q kept
  | drop (r : Question) : Moves answerTo q kept (.dropping r) (.replaced (.ok r)) q none

/-- A step of a task is one of the moves. -/
theorem AnswerTask.exists_moves (hsource : AnswersBy γ answerTo) {s : AnswerService σ κ γ}
    (h : s.Holds name q kept) {task : AnswerTask} (hworks : task.WorksOn σ name)
    (hopen : task.isDone = false) (j : Journal) :
    ∃ task' s' j' q' kept', task.step.outcome s j = ⟨.ok task', s', j'⟩ ∧ s'.Holds name q' kept' ∧
      Moves answerTo q kept task task' q' kept' ∧ task'.WorksOn σ name := by
  cases task with
  | reading id =>
      obtain ⟨questions, hget, hsound, hstored⟩ :=
        KeyedRepository.exists_outcome_get h.sound hworks h.question j
      rw [step, outcome_after, AnswerService.onQuestions, outcome_onPart, hget]
      exact ⟨_, _, _, _, _, rfl, ⟨hsound, hstored ▸ h.question, h.kept, h.lifetime⟩, .read id,
        KeyedRepository.id_of_stored h.sound h.question⟩
  | looking r =>
      obtain rfl : r.id = name := hworks
      obtain ⟨cache, j', hget, hlookup⟩ :=
        WorkingCache.exists_outcome_get s.cache (AnswerService.cacheKey r.id) j
      have hholds : ({ s with cache } : AnswerService σ κ γ).Holds r.id q kept :=
        ⟨h.sound, h.question, hlookup ▸ h.kept, h.lifetime⟩
      rw [step, outcome_after, AnswerService.outcome_kept, hget, h.kept]
      cases kept with
      | none => exact ⟨_, _, _, _, _, rfl, hholds, .missed r rfl, rfl⟩
      | some answer => exact ⟨_, _, _, _, _, rfl, hholds, .found r answer rfl, trivial⟩
  | asking r =>
      rw [step, outcome_after, AnswerService.onSource, outcome_onPart]
      cases hmade : (outcome (AnswerSource.answer r.content) s.source j).result with
      | error f =>
          exact ⟨_, _, _, _, _, rfl, ⟨h.sound, h.question, h.kept, h.lifetime⟩, .failed r f, trivial⟩
      | ok answer =>
          obtain rfl := hsource _ _ _ _ hmade
          exact ⟨_, _, _, _, _, rfl, ⟨h.sound, h.question, h.kept, h.lifetime⟩, .made r, hworks⟩
  | keeping r answer =>
      obtain rfl : r.id = name := hworks
      have hlookup := LastingCache.lookup_set s.cache (AnswerService.cacheKey r.id) answer j
      rw [step, outcome_after, AnswerService.outcome_keep, h.lifetime]
      refine ⟨_, _, _, _, _, rfl, ⟨h.sound, h.question, ?_, rfl⟩, .keep r answer, trivial⟩
      exact (congrFun hlookup _).trans (Function.update_self ..)
  | replacing r =>
      obtain ⟨draft, id, rfl, hname⟩ := hworks
      rw [step, outcome_after, AnswerService.onQuestions, outcome_onPart]
      cases hkept : KeyedRepository.kept σ draft with
      | none =>
          obtain ⟨-, f, questions, hupdate, hsound, hstored⟩ :=
            KeyedRepository.exists_outcome_of_unkept h.sound hkept id j
          rw [hupdate]
          exact ⟨_, _, _, _, _, rfl, ⟨hsound, hstored ▸ h.question, h.kept, h.lifetime⟩, .refused _ f, trivial⟩
      | some draft' =>
          obtain ⟨questions, hupdate, hsound, hstored⟩ := KeyedRepository.exists_outcome_update h.sound
            hkept hname (Option.isSome_iff_exists.mpr ⟨q, h.question⟩) j
          rw [hupdate]
          refine ⟨_, _, _, _, _, rfl, ⟨hsound, ?_, h.kept, h.lifetime⟩, .replace _ _,
            draft'.question_id name⟩
          rw [hstored, Function.update_self]
  | dropping r =>
      obtain rfl : r.id = name := hworks
      obtain ⟨result, cache, j', hdelete, hlookup, -⟩ :=
        WorkingCache.exists_outcome_delete s.cache (AnswerService.cacheKey r.id) j
      rw [step, outcome_after, AnswerService.outcome_invalidate, hdelete]
      refine ⟨_, _, _, _, _, rfl, ⟨h.sound, h.question, ?_, h.lifetime⟩, .drop r, trivial⟩
      rw [hlookup, Function.update_self]
  | answered result | replaced result => cases hopen

namespace AnswerTask.Moves

variable {before after : AnswerTask} {q' : Question} {kept' : Option Text}

/-- A task goes on with what it has read, or reads what is stored. -/
theorem read?_eq (h : Moves answerTo q kept before after q' kept') {r : Question}
    (hread : after.read? = some r) : before.read? = some r ∨ (∃ id, before = .reading id) ∧ r = q := by
  cases h with
  | read id => exact Or.inr ⟨⟨id, rfl⟩, (Option.some.inj hread).symm⟩
  | missed r' _ | made r' => exact Or.inl hread
  | _ => cases hread

theorem made_keeping (h : Moves answerTo q kept before after q' kept') {r : Question} {answer : Text}
    (hkeeping : after = .keeping r answer) : answer = answerTo r.content := by
  cases h with
  | made r' =>
      injection hkeeping with hr hanswer
      rw [← hr, hanswer]
  | _ => cases hkeeping

theorem question_eq (h : Moves answerTo q kept before after q' kept') :
    q' = q ∨ (∃ r, before = .replacing r) ∧ kept' = kept ∧ ∃ r, after = .dropping r := by
  cases h with
  | replace r => exact Or.inr ⟨⟨r, rfl⟩, rfl, _, rfl⟩
  | _ => exact Or.inl rfl

/-- What is kept changes only as an answer is kept or dropped. -/
theorem kept_eq (h : Moves answerTo q kept before after q' kept') :
    before.changesKept = false ∧ kept' = kept ∨
      (∃ r answer, before = .keeping r answer ∧ q' = q ∧ kept' = some answer) ∨
      (∃ r, before = .dropping r) ∧ kept' = none := by
  cases h with
  | keep r answer => exact Or.inr (Or.inl ⟨r, answer, rfl, rfl, rfl⟩)
  | drop r => exact Or.inr (Or.inr ⟨⟨r, rfl⟩, rfl⟩)
  | _ => exact Or.inl ⟨rfl, rfl⟩

end AnswerTask.Moves

/-! ### Whole runs -/

variable {trace : List (ι × AnswerTask)} {start : AnswerTasks ι σ κ γ}

namespace AnswerTasks

/-- The question is stored, and no other answer than the one to it is kept. -/
def KeepsCurrent (answerTo : Json → Text) (name : QuestionId) (t : AnswerTasks ι σ κ γ) : Prop :=
  ∃ q, KeyedRepository.stored t.service.questions name = some q ∧
    ∀ answer, WorkingCache.lookup t.service.cache (AnswerService.cacheKey name) = some answer →
      answer = answerTo q.content

/-- The tasks are about to begin their work on a stored question, whose answer is kept forever. -/
structure Begins (answerTo : Json → Text) (name : QuestionId) (t : AnswerTasks ι σ κ γ) : Prop where
  sound : KeyedRepository.Sound t.service.questions
  current : t.KeepsCurrent answerTo name
  lifetime : t.service.lifetime = none
  new : ∀ i, (t.tasks i).isNew = true
  works : ∀ i, (t.tasks i).WorksOn σ name

/-- Another task has replaced the question since a task read it, and has dropped the kept answer or is
about to. -/
def Passed (trace : List (ι × AnswerTask)) (t : AnswerTasks ι σ κ γ) (i : ι) : Prop :=
  ∃ id p r, [(i, .reading id), (p, .replacing r)].Sublist trace ∧
    ((∃ r', t.tasks p = .dropping r') ∨
      ∃ r', [(i, .reading id), (p, .replacing r), (p, .dropping r')].Sublist trace)

/-- What holds while tasks work on a question: a task that goes on with another question than the stored
one has been passed, and so has been, or is about to be dropped, an answer to another question. -/
structure Tracked (answerTo : Json → Text) (name : QuestionId) (trace : List (ι × AnswerTask))
    (t : AnswerTasks ι σ κ γ) (q : Question) (kept : Option Text) : Prop where
  holds : t.service.Holds name q kept
  works : ∀ i, (t.tasks i).WorksOn σ name
  made : ∀ i r answer, t.tasks i = .keeping r answer → answer = answerTo r.content
  read : ∀ i r, (t.tasks i).read? = some r → ∃ id, (i, .reading id) ∈ trace
  passed : ∀ i r, (t.tasks i).read? = some r → r ≠ q → Passed trace t i
  stale : ∀ answer, kept = some answer → answer ≠ answerTo q.content →
    (∃ p r, t.tasks p = .dropping r) ∨ EndsLate trace answer
  last : ∀ i r answer, (trace.filter fun step => step.2.changesKept).getLast? = some (i, .keeping r answer) →
    kept = some answer

omit [KeyedRepository σ] [LastingCache κ] in
theorem step_eq {task : AnswerTask} {s : AnswerService σ κ γ} {j : Journal}
    (h : (t.tasks i).step.outcome t.service t.journal = ⟨.ok task, s, j⟩) :
    t.step i = ⟨s, j, Function.update t.tasks i task⟩ := by
  rw [step, h]
  congr 1
  funext other
  rw [Function.update_apply]
  rfl

omit [QuestionRepository σ] [Cache κ] [AnswerSource γ] [KeyedRepository σ] [LastingCache κ] in
theorem Passed.step {t' : AnswerTasks ι σ κ γ} {task : AnswerTask} {j : ι}
    (htasks : t'.tasks = Function.update t.tasks i task) (h : Passed trace t j) :
    Passed (trace ++ [(i, t.tasks i)]) t' j := by
  obtain ⟨id, p, r, hreplaced, hdrop⟩ := h
  refine ⟨id, p, r, hreplaced.trans (List.sublist_append_left ..), ?_⟩
  rcases hdrop with ⟨r', hdropping⟩ | ⟨r', hdropped⟩
  · by_cases hp : p = i
    · subst hp
      rw [hdropping]
      exact Or.inr ⟨r', hreplaced.append (List.Sublist.refl _)⟩
    · refine Or.inl ⟨r', ?_⟩
      rw [htasks, Function.update_of_ne hp, hdropping]
  · exact Or.inr ⟨r', hdropped.trans (List.sublist_append_left ..)⟩

omit [AnswerSource γ] in
/-- A task that has been passed goes on with what it has read, and no other task does. -/
theorem Tracked.passed_step (h : Tracked answerTo name trace t q kept) {t' : AnswerTasks ι σ κ γ}
    {task : AnswerTask} {q' : Question} {kept' : Option Text}
    (hmoves : AnswerTask.Moves answerTo q kept (t.tasks i) task q' kept')
    (htasks : t'.tasks = Function.update t.tasks i task) (j : ι) (r : Question)
    (hread : (t'.tasks j).read? = some r) (hne : r ≠ q') : Passed (trace ++ [(i, t.tasks i)]) t' j := by
  have hbefore : (t.tasks j).read? = some r → Passed (trace ++ [(i, t.tasks i)]) t' j := by
    intro hread
    rcases hmoves.question_eq with rfl | ⟨⟨r₁, hreplacing⟩, -, stored, rfl⟩
    · exact (h.passed j r hread hne).step htasks
    · obtain ⟨id, hid⟩ := h.read j r hread
      refine ⟨id, i, r₁, ?_, Or.inl ⟨stored, ?_⟩⟩
      · rw [hreplacing]
        exact (List.singleton_sublist.mpr hid).append (List.Sublist.refl _)
      · rw [htasks, Function.update_self]
  by_cases hj : j = i
  · subst hj
    rw [htasks, Function.update_self] at hread
    rcases hmoves.read?_eq hread with hold | ⟨⟨id, hreading⟩, rfl⟩
    · exact hbefore hold
    · rcases hmoves.question_eq with rfl | ⟨⟨r₁, hreplacing⟩, -⟩
      · exact absurd rfl hne
      · rw [hreading] at hreplacing
        cases hreplacing
  · rw [htasks, Function.update_of_ne hj] at hread
    exact hbefore hread

omit [AnswerSource γ] in
/-- An answer to another question than the stored one is dropped next, or was kept late. -/
theorem Tracked.stale_step (h : Tracked answerTo name trace t q kept) {t' : AnswerTasks ι σ κ γ}
    {task : AnswerTask} {q' : Question} {kept' : Option Text}
    (hmoves : AnswerTask.Moves answerTo q kept (t.tasks i) task q' kept')
    (htasks : t'.tasks = Function.update t.tasks i task) (answer : Text) (hkept : kept' = some answer)
    (hne : answer ≠ answerTo q'.content) :
    (∃ p r, t'.tasks p = .dropping r) ∨ EndsLate (trace ++ [(i, t.tasks i)]) answer := by
  have hother : ∀ p r, t.tasks p = .dropping r → (∀ r, t.tasks i ≠ .dropping r) →
      ∃ p r, t'.tasks p = .dropping r := by
    intro p r hdropping hi
    refine ⟨p, r, ?_⟩
    rw [htasks, Function.update_of_ne, hdropping]
    rintro rfl
    exact hi r hdropping
  rcases hmoves.kept_eq with ⟨hquiet, rfl⟩ | ⟨r, answer', hkeeping, rfl, hnew⟩ | ⟨-, hnone⟩
  · rcases hmoves.question_eq with rfl | ⟨-, -, stored, rfl⟩
    · refine (h.stale answer hkept hne).imp ?_ (EndsLate.append hquiet)
      rintro ⟨p, r, hdropping⟩
      refine hother p r hdropping fun r' hi => ?_
      rw [hi] at hquiet
      cases hquiet
    · exact Or.inl ⟨i, stored, by rw [htasks, Function.update_self]⟩
  · obtain rfl := Option.some.inj (hnew.symm.trans hkept)
    have hr : r ≠ q' := by
      rintro rfl
      exact hne (h.made i r answer' hkeeping)
    obtain ⟨id, p, r₁, -, ⟨r', hdropping⟩ | ⟨r', hdropped⟩⟩ :=
      h.passed i r (by rw [hkeeping]; rfl) hr
    · exact Or.inl (hother p r' hdropping fun r hi => by cases hkeeping.symm.trans hi)
    · refine Or.inr ⟨i, r, ?_, id, p, r₁, r', ?_⟩
      · rw [hkeeping, List.filter_append]
        simp [AnswerTask.changesKept]
      · rw [hkeeping]
        exact hdropped.append (List.Sublist.refl _)
  · cases hnone.symm.trans hkept

theorem Tracked.step (hsource : AnswersBy γ answerTo) (h : Tracked answerTo name trace t q kept)
    (hopen : (t.tasks i).isDone = false) :
    ∃ q' kept', Tracked answerTo name (trace ++ [(i, t.tasks i)]) (t.step i) q' kept' := by
  obtain ⟨task, s', j', q', kept', hstep, hholds, hmoves, hworks⟩ :=
    AnswerTask.exists_moves hsource h.holds (h.works i) hopen t.journal
  have ht : t.step i = ⟨s', j', Function.update t.tasks i task⟩ := step_eq hstep
  have htasks : (t.step i).tasks = Function.update t.tasks i task := congrArg AnswerTasks.tasks ht
  refine ⟨q', kept', ht ▸ hholds, ?works, ?made, ?read, h.passed_step hmoves htasks,
    h.stale_step hmoves htasks, ?last⟩
  case works =>
    rw [htasks]
    exact (Function.forall_update_iff t.tasks fun _ task => task.WorksOn σ name).mpr
      ⟨hworks, fun j _ => h.works j⟩
  case made =>
    rw [htasks]
    exact (Function.forall_update_iff t.tasks fun _ task => ∀ r answer, task = .keeping r answer →
      answer = answerTo r.content).mpr ⟨fun r answer => hmoves.made_keeping, fun j _ => h.made j⟩
  case read =>
    intro j r hread
    by_cases hj : j = i
    · subst hj
      rw [htasks, Function.update_self] at hread
      rcases hmoves.read?_eq hread with hold | ⟨⟨id, hreading⟩, -⟩
      · obtain ⟨id, hid⟩ := h.read j r hold
        exact ⟨id, List.mem_append_left _ hid⟩
      · exact ⟨id, List.mem_append_right _ (by rw [hreading]; exact List.mem_singleton_self _)⟩
    · rw [htasks, Function.update_of_ne hj] at hread
      obtain ⟨id, hid⟩ := h.read j r hread
      exact ⟨id, List.mem_append_left _ hid⟩
  case last =>
    intro j r answer hlast
    rw [List.filter_append, List.filter_singleton] at hlast
    rcases hmoves.kept_eq with ⟨hquiet, rfl⟩ | ⟨r', answer', hkeeping, -, rfl⟩ | ⟨⟨r', hdropping⟩, -⟩
    · refine h.last j r answer ?_
      simpa [hquiet] using hlast
    · simp_all [AnswerTask.changesKept]
    · simp_all [AnswerTask.changesKept]

omit [DecidableEq ι] [AnswerSource γ] in
/-- What is tracked decides, at rest, whether the kept answer is current. -/
theorem Tracked.keepsCurrent_iff (h : Tracked answerTo name trace t q kept)
    (hdone : ∀ i, (t.tasks i).isDone = true) : t.KeepsCurrent answerTo name ↔
      ¬∃ answer r, EndsLate trace answer ∧ KeyedRepository.stored t.service.questions name = some r ∧
        answer ≠ answerTo r.content := by
  constructor
  · rintro ⟨r, hr, hcurrent⟩ ⟨answer, r', ⟨i, overtaken, hlast, -⟩, hr', hne⟩
    obtain rfl := Option.some.inj (hr.symm.trans hr')
    exact hne (hcurrent answer (h.holds.kept.trans (h.last i overtaken answer hlast)))
  · intro hnone
    refine ⟨q, h.holds.question, fun answer hanswer => ?_⟩
    by_contra hne
    rcases h.stale answer (h.holds.kept.symm.trans hanswer) hne with ⟨p, r, hdropping⟩ | hlate
    · have hopen := hdone p
      rw [hdropping] at hopen
      cases hopen
    · exact hnone ⟨answer, q, hlate, h.holds.question, hne⟩

omit [DecidableEq ι] [AnswerSource γ] in
/-- What is kept is current before the first step, and nothing has been passed. -/
theorem Begins.tracked (h : start.Begins answerTo name) :
    ∃ q kept, Tracked answerTo name [] start q kept := by
  obtain ⟨q, hq, hcurrent⟩ := h.current
  have hread : ∀ i r, (start.tasks i).read? ≠ some r := by
    intro i r
    have hnew := h.new i
    cases htask : start.tasks i with
    | reading id | replacing r => simp [AnswerTask.read?]
    | _ => simp [htask, AnswerTask.isNew] at hnew
  refine ⟨q, _, ⟨h.sound, hq, rfl, h.lifetime⟩, h.works, ?_, ?_, ?_, ?_, ?_⟩
  · intro i r answer hkeeping
    exact absurd (by rw [hkeeping]; rfl) (hread i r)
  · exact fun i r hr => absurd hr (hread i r)
  · exact fun i r hr => absurd hr (hread i r)
  · exact fun answer hanswer hne => absurd (hcurrent answer hanswer) hne
  · intro i r answer hlast
    cases hlast

theorem Run.tracked (hsource : AnswersBy γ answerTo) (hbegins : start.Begins answerTo name)
    (hrun : Run start trace t) : ∃ q kept, Tracked answerTo name trace t q kept := by
  induction hrun with
  | start => exact hbegins.tracked
  | step i _ hopen ih =>
      obtain ⟨q, kept, htracked⟩ := ih
      exact htracked.step hsource hopen

/-- When all tasks have ended, what is kept is the answer to the question that is stored, if anything
is, unless the last that was done to it is that an overtaken task kept another answer. -/
theorem keepsCurrent_iff_not_endsLate (hsource : AnswersBy γ answerTo)
    (hbegins : start.Begins answerTo name) (hrun : Run start trace t)
    (hdone : ∀ i, (t.tasks i).isDone = true) : t.KeepsCurrent answerTo name ↔
      ¬∃ answer r, EndsLate trace answer ∧ KeyedRepository.stored t.service.questions name = some r ∧
        answer ≠ answerTo r.content := by
  obtain ⟨q, kept, htracked⟩ := hrun.tracked hsource hbegins
  exact htracked.keepsCurrent_iff hdone

/-! ### A task that is overtaken -/

section Example

def sixId : QuestionId := ⟨"6", by decide⟩

def draftSix (content : Text) : QuestionDraft := ⟨none, "Title", content, none⟩

/-- A task that asks for the answer to question 6 and one that replaces the question. -/
def askedAndReplaced : AnswerTasks Bool QuestionStore ClockedCache EchoSource where
  service :=
    { questions := .ofList [(draftSix "first").question sixId]
      cache := { now := .zero false }
      source := {}
      lifetime := none }
  journal := .verbose
  tasks
    | false => .reading sixId
    | true => .replacing ((draftSix "second").question sixId)

/-- The tasks when they have taken some steps. -/
def afterSteps (schedule : List Bool) : AnswerTasks Bool QuestionStore ClockedCache EchoSource :=
  schedule.foldl (fun t i => t.step i) askedAndReplaced

theorem begins_askedAndReplaced : askedAndReplaced.Begins EchoSource.answerTo sixId where
  sound := QuestionStore.sound_ofList _
  current := by
    refine ⟨(draftSix "first").question sixId, rfl, fun answer hanswer => ?_⟩
    cases hanswer
  lifetime := rfl
  new := by decide
  works := by
    rintro (_ | _)
    · exact rfl
    · exact ⟨draftSix "second", sixId, rfl, rfl⟩

/-- The question is replaced while the source answers it: the answer to the first content is kept when
the second one is stored. -/
theorem stale_overtaken : ∃ trace last q answer, AnswersBy EchoSource EchoSource.answerTo ∧
    askedAndReplaced.Begins EchoSource.answerTo sixId ∧ Run askedAndReplaced trace last ∧
    (∀ i, (last.tasks i).isDone = true) ∧
    KeyedRepository.stored last.service.questions sixId = some q ∧
    WorkingCache.lookup last.service.cache (AnswerService.cacheKey sixId) = some answer ∧
    answer ≠ EchoSource.answerTo q.content := by
  have hrun : Run askedAndReplaced _ (afterSteps [false, false, false, true, true, false]) :=
    .step false (.step true (.step true (.step false (.step false (.step false .start rfl) rfl) rfl) rfl)
      rfl) rfl
  refine ⟨_, _, (draftSix "second").question sixId, "Answer to first", EchoSource.answersBy_answerTo,
    begins_askedAndReplaced, hrun, by decide +kernel, rfl, by decide +kernel, by decide +kernel⟩

/-- The question is replaced when its answer has been kept: nothing is kept in the end. -/
theorem keepsCurrent_replaced : ∃ trace last, Run askedAndReplaced trace last ∧
    (∀ i, (last.tasks i).isDone = true) ∧ last.KeepsCurrent EchoSource.answerTo sixId := by
  have hrun : Run askedAndReplaced _ (afterSteps [false, false, false, false, true, true]) :=
    .step true (.step true (.step false (.step false (.step false (.step false .start rfl) rfl) rfl) rfl)
      rfl) rfl
  have hdone : ∀ i, ((afterSteps [false, false, false, false, true, true]).tasks i).isDone = true := by
    decide +kernel
  refine ⟨_, _, hrun, hdone, ?_⟩
  refine (keepsCurrent_iff_not_endsLate EchoSource.answersBy_answerTo begins_askedAndReplaced hrun
    hdone).mpr ?_
  -- the last that was done to the kept answer is that it was dropped
  rintro ⟨answer, r, ⟨i, q, hlast, -⟩, -⟩
  cases hlast

end Example

end AnswerTasks

end QuestionBoard
