import QuestionBoard.Proofs.Board.Run

/-!
Answers on a board whose questions are rows of a table. An answer is kept under the identifier that
shows the key of its row. Replacing a question drops the answer that is kept under that identifier;
removing one drops what is kept under the identifier of the request, which may write the key in
another way, with zeros before it or with a sign. So kept answers are dropped with their questions,
and the board answers freshly, just when no request of a run removes a row whose answer is kept by
another identifier than its own.
-/

namespace QuestionBoard

namespace Moment

variable {κ γ : Type} [Cache κ] [WorkingCache κ] [AnswerSource γ] {answerTo : Json → Text}
  {serviceName : Text} {start m last : Moment QuestionDatabase κ γ}
  {served : List (Moment QuestionDatabase κ γ × HttpRequest)} {r : HttpRequest}

/-- A request removes a question by an identifier that reads as the key of the question but does not
show it, and the answer to the question is kept. -/
def RemovesMisnamed (m : Moment QuestionDatabase κ γ) (r : HttpRequest) : Prop :=
  ∃ id target key, (r.method = "DELETE" ∧ Route.ofPath r.path.toList = some (.question id)) ∧
    (QuestionId.ofText id = .ok target ∧ target.toKey = .ok key ∧ target ≠ .ofKey key) ∧
    (m.stored (.ofKey key)).isSome ∧ (m.kept (.ofKey key)).isSome

/-- If a request replaces or removes a question, no answer is kept for its row afterwards. -/
def ForgetsChanged (serviceName : Text) (m : Moment QuestionDatabase κ γ) (r : HttpRequest) : Prop :=
  ∀ id target key response, (r.method = "PUT" ∨ r.method = "DELETE") →
    Route.ofPath r.path.toList = some (.question id) → QuestionId.ofText id = .ok target →
    target.toKey = .ok key → m.reply serviceName r = .ok response → response.status = 200 →
    (m.after serviceName r).kept (.ofKey key) = none

theorem named_ofKey {target : QuestionId} {key : Int} (hkey : target.toKey = .ok key) :
    KeyedRepository.named QuestionDatabase target = some (.ofKey key) :=
  QuestionDatabase.named_eq_some_iff.mpr ⟨key, hkey, rfl⟩

/-- A request that removes no question by another identifier than its own keeps the board coherent: a
question that is added takes a key that no row has, so nothing is kept for it. -/
theorem Coherent.after_of_not_removesMisnamed (hsource : AnswersBy γ answerTo)
    (h : m.Coherent answerTo) (hnot : ¬m.RemovesMisnamed r) :
    (m.after serviceName r).Coherent answerTo := by
  refine h.after hsource ?_ ?_
  · intro draft draft' id answer _ _ _ hkept hwhole
    obtain ⟨q, hq, -⟩ := h.current _ answer hkept hwhole
    obtain ⟨t, hserves⟩ := h.sound
    have hnone : m.stored (.ofKey t.nextKey) = none := by
      rw [stored]
      change QuestionDatabase.stored _ _ = _
      rw [hserves.stored_ofKey, QuestionTable.find?_eq_none_iff.mpr QuestionTable.nextKey_not_mem]
      rfl
    have hnew : KeyedRepository.newId m.service.questions id = .ofKey t.nextKey := by
      change QuestionId.ofKey (m.service.questions.table.getD {}).nextKey = _
      rw [hserves.table, Option.getD_some]
    rw [hnew, hnone] at hq
    cases hq
  · intro id target name answer hcommand htarget hname hstored hkept _
    obtain ⟨key, hkey, rfl⟩ := QuestionDatabase.named_eq_some_iff.mp hname
    by_contra hne
    exact hnot ⟨id, target, key, HttpRequest.command?_eq_remove_iff.mp hcommand,
      ⟨htarget, hkey, hne⟩, hstored, by simp [hkept]⟩

/-- A request that removes no question by another identifier than its own leaves no answer behind. -/
theorem Coherent.forgetsChanged (hsource : AnswersBy γ answerTo) (h : m.Coherent answerTo)
    (hnot : ¬m.RemovesMisnamed r) : m.ForgetsChanged serviceName r := by
  intro id target key response hmethod hroute htarget hkey hresponse hstatus
  have hname := named_ofKey hkey
  rcases hmethod with hmethod | hmethod
  · obtain ⟨draft, hcommand⟩ := Board.exists_replace_of_put m.service m.journal serviceName hmethod hroute
      hresponse hstatus
    obtain ⟨result, questions', answers', hshows, heffect, -, herror⟩ :=
      exists_effect serviceName hsource h.sound hcommand
    rw [kept, hshows.answers]
    cases heffect with
    | read _ hreads => exact hreads.elim
    | refused _ hrefused f => exact absurd hstatus (herror f response rfl hresponse)
    | @replaced _ target' name _ _ hdraft htarget' hname' hstored result =>
        obtain rfl := Except.ok.inj (htarget.symm.trans htarget')
        obtain rfl := Option.some.inj (hname.symm.trans hname')
        exact Function.update_self _ _ _
  · have hcommand := HttpRequest.command?_eq_remove_iff.mpr ⟨hmethod, hroute⟩
    obtain ⟨result, questions', answers', hshows, heffect, -, herror⟩ :=
      exists_effect serviceName hsource h.sound hcommand
    rw [kept, hshows.answers]
    cases heffect with
    | read _ hreads => exact hreads.elim
    | refused _ hrefused f => exact absurd hstatus (herror f response rfl hresponse)
    | @removed _ target' name htarget' hname' hstored =>
        obtain rfl := Except.ok.inj (htarget.symm.trans htarget')
        obtain rfl := Option.some.inj (hname.symm.trans hname')
        rw [AnswerService.update_cacheKey]
        by_cases hown : QuestionId.ofKey key = target
        · rw [if_pos hown]
        · rw [if_neg hown]
          by_contra hkept
          exact hnot ⟨id, target, key, ⟨hmethod, hroute⟩, ⟨htarget, hkey, fun e => hown e.symm⟩, hstored,
            Option.isSome_iff_ne_none.mpr hkept⟩

/-- A request that removes a question by another identifier than its own leaves its answer behind. -/
theorem Asked.not_forgetsChanged (hsource : AnswersBy γ answerTo) (h : m.Asked)
    (hmisnamed : m.RemovesMisnamed r) : ¬m.ForgetsChanged serviceName r := by
  obtain ⟨id, target, key, ⟨hmethod, hroute⟩, ⟨htarget, hkey, hne⟩, hstored, hkept⟩ := hmisnamed
  intro hforgets
  have hname := named_ofKey hkey
  obtain ⟨result, questions', answers', hshows, heffect, hok, -⟩ := exists_effect serviceName hsource h.sound
    (HttpRequest.command?_eq_remove_iff.mpr ⟨hmethod, hroute⟩)
  cases heffect with
  | read _ hreads => exact hreads
  | refused _ hrefused f =>
      have hnone := hrefused target htarget
      rw [hname, Option.bind_some] at hnone
      rw [hnone] at hstored
      cases hstored
  | @removed _ target' name htarget' hname' hstored' =>
      obtain rfl := Except.ok.inj (htarget.symm.trans htarget')
      have hnone := hforgets id target key _ (Or.inr hmethod) hroute htarget hkey (hok _ rfl)
        (HttpResponse.forOrigin_status _)
      rw [kept, hshows.answers, AnswerService.update_cacheKey, if_neg (Ne.symm hne)] at hnone
      rw [kept, hnone] at hkept
      cases hkept

/-- Every request that changes a question drops the answer that is kept for its row, and the board
answers freshly at every moment, just when no request of the run removes a question with a kept answer
by another identifier than its own. -/
theorem forgetsChanged_iff_not_removesMisnamed (hsource : AnswersBy γ answerTo) {t : QuestionTable}
    (hserves : start.service.questions.Serves t) (hempty : ∀ id, start.kept id = none)
    (hrun : Run serviceName start served last) :
    ((∀ p ∈ served, p.1.ForgetsChanged serviceName p.2 ∧ p.1.AnswersFreshly serviceName answerTo ∧
        (p.1.after serviceName p.2).AnswersFreshly serviceName answerTo) ∧
      last.AnswersFreshly serviceName answerTo) ↔
      ∀ p ∈ served, ¬p.1.RemovesMisnamed p.2 := by
  have hsound : KeyedRepository.Sound start.service.questions := ⟨t, hserves⟩
  constructor
  · rintro ⟨hforgets, -⟩ p hp hmisnamed
    have hasked := hrun.asked hsource hsound hempty p hp
    exact hasked.not_forgetsChanged hsource hmisnamed (hforgets p hp).1
  · intro hnot
    obtain ⟨hcoherent, hlast⟩ := hrun.coherent hsound hempty fun p hp h =>
      h.after_of_not_removesMisnamed hsource (hnot p hp)
    refine ⟨fun p hp => ⟨?_, ?_, ?_⟩, hlast.answersFreshly hsource serviceName⟩
    · exact (hcoherent p hp).1.forgetsChanged hsource (hnot p hp)
    · exact (hcoherent p hp).1.answersFreshly hsource serviceName
    · exact (hcoherent p hp).2.answersFreshly hsource serviceName

/-! ### A key that is given again -/

section Example

open HttpRequest

/-- A board with an empty table. -/
def unasked : Moment QuestionDatabase ClockedCache EchoSource :=
  ⟨{ questions := {}, cache := { now := .zero false }, source := {} }, .verbose⟩

/-- The board when a question was added, under key 1. -/
def inserted : Moment QuestionDatabase ClockedCache EchoSource :=
  unasked.after "board" (postQuestion "0" "first")

def asked : Moment QuestionDatabase ClockedCache EchoSource := inserted.after "board" (getAnswer "1")

/-- The board when the question was removed by an identifier. -/
def removed (id : String) : Moment QuestionDatabase ClockedCache EchoSource :=
  asked.after "board" (deleteQuestion id)

/-- The board when a question with another content was added after that, under key 1 again. -/
def reused (id : String) : Moment QuestionDatabase ClockedCache EchoSource :=
  (removed id).after "board" (postQuestion "0" "second")

/-- What was served up to then. -/
def servedUntilReused (id : String) : List (Moment QuestionDatabase ClockedCache EchoSource × HttpRequest) :=
  [(unasked, postQuestion "0" "first"), (inserted, getAnswer "1"), (asked, deleteQuestion id),
    (removed id, postQuestion "0" "second")]

theorem run_reused (id : String) : Run "board" unasked (servedUntilReused id) (reused id) :=
  (((Run.start.serve _).serve _).serve _).serve _

theorem toKey_ofKey_one : (QuestionId.ofKey 1).toKey = .ok 1 := QuestionId.toKey_ofKey (by decide)

theorem ofPath_getAnswer_one :
    Route.ofPath (getAnswer "1").path.toList = some (.answer "1") := by decide +kernel

/-- A question is added, answered and removed by its key with a zero before it: its answer is left
behind, and is given for the question that gets the key next. -/
theorem not_forgetsChanged_removed :
    Run "board" unasked (servedUntilReused "01") (reused "01") ∧
    (asked.reply "board" (deleteQuestion "01")).toOption.map HttpResponse.status = some 200 ∧
    (removed "01").kept (.ofKey 1) = some "Answer to first" ∧
    ((reused "01").reply "board" (getAnswer "1")).toOption.bind HttpResponse.answer? =
      some "Answer to first" ∧
    ((reused "01").stored (.ofKey 1)).map (fun q => q.content.display) = some "second" ∧
    ¬(reused "01").AnswersFreshly "board" EchoSource.answerTo := by
  have hreply : ((reused "01").reply "board" (getAnswer "1")).toOption.bind HttpResponse.answer? =
      some "Answer to first" := by decide +kernel
  have hcontent : ((reused "01").stored (.ofKey 1)).map (fun q => q.content.display) =
      some "second" := by decide +kernel
  refine ⟨run_reused "01", by decide +kernel, by decide +kernel, hreply, hcontent, ?_⟩
  obtain ⟨q, hq, hdisplay⟩ := Option.map_eq_some_iff.mp hcontent
  have hid : QuestionId.ofText "1" = .ok (.ofKey 1) := rfl
  refine not_answersFreshly_of_answer? rfl ofPath_getAnswer_one hid (named_ofKey toKey_ofKey_one)
    hreply hq ?_
  rw [EchoSource.answerTo, hdisplay]
  decide

/-- A question is added, answered and removed by its own identifier: nothing is left behind, and the
question that gets the key next is answered freshly. -/
theorem forgetsChanged_removed :
    Run "board" unasked (servedUntilReused "1") (reused "1") ∧
    unasked.service.questions.Serves {} ∧ (∀ id, unasked.kept id = none) ∧
    asked.kept (.ofKey 1) = some "Answer to first" ∧
    (reused "1").AnswersFreshly "board" EchoSource.answerTo := by
  have hserves : unasked.service.questions.Serves {} := ⟨rfl, rfl⟩
  have hempty : ∀ id, unasked.kept id = none := fun _ => rfl
  have hnot : ∀ p ∈ servedUntilReused "1", ¬p.1.RemovesMisnamed p.2 := by
    rintro p hp ⟨id, target, key, ⟨hmethod, hroute⟩, ⟨htarget, hkey, hne⟩, -, -⟩
    simp only [servedUntilReused, List.mem_cons, List.not_mem_nil, or_false] at hp
    have hpost : ∀ id content, (postQuestion id content).method ≠ "DELETE" := fun _ _ => by
      simp [postQuestion, withBody]
    have hget : (getAnswer "1").method ≠ "DELETE" := by simp [getAnswer]
    rcases hp with rfl | rfl | rfl | rfl
    · exact hpost _ _ hmethod
    · exact hget hmethod
    · have hone : Route.ofPath (deleteQuestion "1").path.toList = some (.question "1") := by
        decide +kernel
      obtain rfl := Route.question.inj (Option.some.inj (hone.symm.trans hroute))
      have hid : QuestionId.ofText "1" = .ok (.ofKey 1) := rfl
      obtain rfl := Except.ok.inj (hid.symm.trans htarget)
      obtain rfl := Except.ok.inj (toKey_ofKey_one.symm.trans hkey)
      exact hne rfl
    · exact hpost _ _ hmethod
  refine ⟨run_reused "1", hserves, hempty, by decide +kernel, ?_⟩
  exact ((forgetsChanged_iff_not_removesMisnamed EchoSource.answersBy_answerTo hserves hempty
    (run_reused "1")).mpr hnot).2

end Example

end Moment

end QuestionBoard
