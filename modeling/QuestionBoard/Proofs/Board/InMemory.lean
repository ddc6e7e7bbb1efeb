import QuestionBoard.Proofs.Board.Run

/-!
Answers on a board whose questions and answers are kept in memory. Replacing or removing a question
drops its kept answer; adding one in the place of another does not, although it replaces the content.
So the board answers freshly at every moment of a run just when no request of the run adds a question
in the place of one whose kept answer is not the new question's own.
-/

namespace QuestionBoard

namespace Moment

variable {γ : Type} [AnswerSource γ] {answerTo : Json → Text} {serviceName : Text}
  {start m last : Moment QuestionStore ClockedCache γ}
  {served : List (Moment QuestionStore ClockedCache γ × HttpRequest)}

/-- A request adds a question in the place of a stored one, and the answer that is kept for the stored
one, and that can be given, is not the answer to the new one. -/
def OverwritesKept (answerTo : Json → Text) (m : Moment QuestionStore ClockedCache γ)
    (r : HttpRequest) : Prop :=
  ∃ draft id answer, r.command? = some (.add draft) ∧ QuestionId.of (draft.id.getD .null) = .ok id ∧
    (m.service.questions.questions.contains id = true ∧ m.kept id = some answer) ∧
    answer.Whole ∧ answer ≠ answerTo (.text draft.content)

/-- A request that does not overwrite keeps the board coherent: the store takes identifiers as they
are, so what is removed is what is invalidated. -/
theorem Coherent.after_of_not_overwritesKept (hsource : AnswersBy γ answerTo) (h : m.Coherent answerTo)
    {r : HttpRequest} (hnot : ¬m.OverwritesKept answerTo r) :
    (m.after serviceName r).Coherent answerTo := by
  refine h.after hsource ?_ ?_
  · rintro draft _ id answer hcommand hid ⟨⟩ hkept hwhole
    by_contra hne
    obtain ⟨q, hq, -⟩ := h.current id answer hkept hwhole
    have hcontains : m.service.questions.questions.contains id = true := Option.isSome_of_eq_some hq
    exact hnot ⟨draft, id, answer, hcommand, hid, ⟨hcontains, hkept⟩, hwhole, hne⟩
  · intro id target name answer _ _ hname _ _ _
    exact Option.some.inj hname

/-- After a request that overwrites, a request for the answer is given the old one. -/
theorem Asked.not_answersFreshly_after (hsource : AnswersBy γ answerTo) (h : m.Asked) {r : HttpRequest}
    (hover : m.OverwritesKept answerTo r) :
    ¬(m.after serviceName r).AnswersFreshly serviceName answerTo := by
  obtain ⟨draft, id, answer, hcommand, hid, ⟨-, hkept⟩, hwhole, hne⟩ := hover
  intro hfresh
  obtain ⟨result, questions', answers', hshows, heffect, -, -⟩ :=
    exists_effect serviceName hsource h.sound hcommand
  cases heffect with
  | read _ hreads => exact hreads
  | refused _ hrefused f => exact hrefused.elim (fun hnot => hnot id hid) nofun
  | @added _ _ id' hid' hdraft result =>
      cases hdraft
      obtain rfl : id = id' := Except.ok.inj (hid.symm.trans hid')
      have hkept' : (m.after serviceName r).kept id = some answer :=
        (congrFun hshows.answers _).trans hkept
      have hq : (m.after serviceName r).stored id = some (draft.question id) :=
        (congrFun hshows.questions id).trans (Function.update_self _ _ _)
      exact hne ((h.after hsource serviceName r).eq_of_answersFreshly hsource hfresh hkept' hwhole hq)

/-- The board answers freshly at every moment of a run just when no request of the run overwrites a
question with a kept answer. -/
theorem answersFreshly_iff_not_overwritesKept (hsource : AnswersBy γ answerTo)
    (initial : List Question) (hquestions : start.service.questions = .ofList initial)
    (hempty : ∀ id, start.kept id = none) (hrun : Run serviceName start served last) :
    ((∀ p ∈ served, p.1.AnswersFreshly serviceName answerTo ∧
        (p.1.after serviceName p.2).AnswersFreshly serviceName answerTo) ∧
      last.AnswersFreshly serviceName answerTo) ↔
      ∀ p ∈ served, ¬p.1.OverwritesKept answerTo p.2 := by
  have hsound : KeyedRepository.Sound start.service.questions :=
    hquestions ▸ QuestionStore.sound_ofList initial
  constructor
  · rintro ⟨hfresh, -⟩ p hp hover
    have hasked := hrun.asked hsource hsound hempty p hp
    exact hasked.not_answersFreshly_after hsource hover (hfresh p hp).2
  · intro hnot
    obtain ⟨hcoherent, hlast⟩ := hrun.coherent hsound hempty fun p hp h =>
      h.after_of_not_overwritesKept hsource (hnot p hp)
    refine ⟨fun p hp => ⟨?_, ?_⟩, hlast.answersFreshly hsource serviceName⟩
    · exact (hcoherent p hp).1.answersFreshly hsource serviceName
    · exact (hcoherent p hp).2.answersFreshly hsource serviceName

/-! ### A question that is added twice -/

section Example

open HttpRequest

def seven : QuestionId := ⟨"7", by decide⟩

def idle : Moment QuestionStore ClockedCache EchoSource :=
  ⟨{ questions := .empty, cache := { now := .zero false }, source := {} }, .verbose⟩

def added : Moment QuestionStore ClockedCache EchoSource :=
  idle.after "board" (postQuestion "7" "first")

def answered : Moment QuestionStore ClockedCache EchoSource := added.after "board" (getAnswer "7")

/-- The board when question 7 was added once more, with another content. -/
def overwritten : Moment QuestionStore ClockedCache EchoSource :=
  answered.after "board" (postQuestion "7" "second")

/-- The board when question 7 was replaced by one with another content. -/
def replaced : Moment QuestionStore ClockedCache EchoSource :=
  answered.after "board" (putQuestion "7" "second")

theorem ofPath_getAnswer_seven :
    Route.ofPath (getAnswer "7").path.toList = some (.answer "7") := by decide +kernel

/-- A question is added, answered and added once more with another content: the board goes on giving
the answer to the first content. -/
theorem not_answersFreshly_overwritten :
    Run "board" idle [(idle, postQuestion "7" "first"), (added, getAnswer "7"),
      (answered, postQuestion "7" "second")] overwritten ∧
    (overwritten.reply "board" (getAnswer "7")).toOption.bind HttpResponse.answer? =
      some "Answer to first" ∧
    (overwritten.stored seven).map (fun q => q.content.display) = some "second" ∧
    ¬overwritten.AnswersFreshly "board" EchoSource.answerTo := by
  have hreply : (overwritten.reply "board" (getAnswer "7")).toOption.bind HttpResponse.answer? =
      some "Answer to first" := by decide +kernel
  have hcontent : (overwritten.stored seven).map (fun q => q.content.display) = some "second" := by
    decide +kernel
  refine ⟨((Run.start.serve _).serve _).serve _, hreply, hcontent, ?_⟩
  obtain ⟨q, hq, hdisplay⟩ := Option.map_eq_some_iff.mp hcontent
  have hid : QuestionId.ofText "7" = .ok seven := rfl
  refine not_answersFreshly_of_answer? rfl ofPath_getAnswer_seven hid rfl hreply hq ?_
  rw [EchoSource.answerTo, hdisplay]
  decide

/-- A question is added, answered and replaced: the board answers freshly. -/
theorem answersFreshly_replaced :
    Run "board" idle [(idle, postQuestion "7" "first"), (added, getAnswer "7"),
      (answered, putQuestion "7" "second")] replaced ∧
    idle.service.questions = .ofList [] ∧ (∀ id, idle.kept id = none) ∧
    answered.kept seven = some "Answer to first" ∧
    replaced.AnswersFreshly "board" EchoSource.answerTo := by
  have hrun : Run "board" idle [(idle, postQuestion "7" "first"), (added, getAnswer "7"),
      (answered, putQuestion "7" "second")] replaced := ((Run.start.serve _).serve _).serve _
  have hempty : ∀ id, idle.kept id = none := fun _ => rfl
  have hask : ∀ draft, (getAnswer "7").command? ≠ some (.add draft) := by
    intro draft hcommand
    rw [command?_eq_answer_iff.mpr ⟨rfl, ofPath_getAnswer_seven⟩] at hcommand
    cases hcommand
  have hput : ∀ draft, (putQuestion "7" "second").command? ≠ some (.add draft) := by
    intro draft hcommand
    have hroute : Route.ofPath (putQuestion "7" "second").path.toList = some (.question "7") := by
      decide +kernel
    rw [command?_of_put rfl hroute] at hcommand
    cases (exists_of_readBody hcommand).choose_spec
  have hnot : ∀ p ∈ [(idle, postQuestion "7" "first"), (added, getAnswer "7"),
      (answered, putQuestion "7" "second")], ¬p.1.OverwritesKept EchoSource.answerTo p.2 := by
    rintro p hp ⟨draft, id, answer, hcommand, -, ⟨-, hkept⟩, -⟩
    simp only [List.mem_cons, List.not_mem_nil, or_false] at hp
    rcases hp with rfl | rfl | rfl
    · rw [hempty] at hkept
      cases hkept
    · exact hask draft hcommand
    · exact hput draft hcommand
  refine ⟨hrun, rfl, hempty, by decide +kernel, ?_⟩
  exact ((answersFreshly_iff_not_overwritesKept EchoSource.answersBy_answerTo [] rfl hempty hrun).mpr
    hnot).2

end Example

end Moment

end QuestionBoard
