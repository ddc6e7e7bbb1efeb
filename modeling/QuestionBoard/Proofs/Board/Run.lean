import QuestionBoard.Proofs.Board.Reply

/-!
Runs of a board: requests are served one at a time, and time passes between them. The kept answers are
coherent with the stored questions when each that can be given, which is all characters, is the answer to a
question that is stored under its identifier now. Two commands can break this: adding a question in the place
of one whose answer is kept, and removing a question by an identifier that is not its own.
-/

namespace QuestionBoard

/-! ### Requests -/

namespace HttpRequest

def withBody (method path body : String) : HttpRequest :=
  { method, path, headers := [("content-type", "application/json")], body }

def postQuestion (id content : String) : HttpRequest :=
  withBody "POST" "/questions" ("\x7b\"id\": \"" ++ id ++
    "\", \"title\": \"Title\", \"content\": \"" ++ content ++ "\"\x7d")

def putQuestion (id content : String) : HttpRequest :=
  withBody "PUT" ("/questions/" ++ id)
    ("\x7b\"title\": \"Title\", \"content\": \"" ++ content ++ "\"\x7d")

def deleteQuestion (id : String) : HttpRequest := { method := "DELETE", path := "/questions/" ++ id }

def getAnswer (id : String) : HttpRequest :=
  { method := "GET", path := "/questions/" ++ id ++ "/answer" }

end HttpRequest

/-! ### Moments and runs -/

/-- A board between two requests. -/
structure Moment (σ κ γ : Type) where
  service : AnswerService σ κ γ
  journal : Journal

namespace Moment

variable {σ κ γ : Type}

section replies

variable [QuestionRepository σ] [Cache κ] [AnswerSource γ] (serviceName : Text) (r : HttpRequest)

def reply (m : Moment σ κ γ) : Except Failure HttpResponse :=
  ((Board.reply serviceName r).outcome m.service m.journal).result

def after (m : Moment σ κ γ) : Moment σ κ γ :=
  ⟨((Board.reply serviceName r).outcome m.service m.journal).state,
    ((Board.reply serviceName r).outcome m.service m.journal).journal⟩

end replies

def withCache (cache : κ) (m : Moment σ κ γ) : Moment σ κ γ :=
  { m with service := { m.service with cache } }

variable [QuestionRepository σ] [KeyedRepository σ] [Cache κ] [WorkingCache κ] [AnswerSource γ]

def stored (m : Moment σ κ γ) : QuestionId → Option Question := KeyedRepository.stored m.service.questions

/-- The answer that is kept under an identifier, unless it has expired. -/
def kept (m : Moment σ κ γ) (id : QuestionId) : Option Text :=
  WorkingCache.lookup m.service.cache (AnswerService.cacheKey id)

/-- Every successful reply that gives an answer, if one were asked for now, gives the answer to the
content that is stored now. -/
def AnswersFreshly (serviceName : Text) (answerTo : Json → Text) (m : Moment σ κ γ) : Prop :=
  ∀ r id response, r.method = "GET" → Route.ofPath r.path.toList = some (.answer id) →
    m.reply serviceName r = .ok response → response.status = 200 →
    ∃ target name q, QuestionId.ofText id = .ok target ∧ KeyedRepository.named σ target = some name ∧
      m.stored name = some q ∧
      response.body = .data (Command.answerData target (answerTo q.content))

/-- The requests that a board serves, each with the board before it; between two requests time may
pass. -/
inductive Run (serviceName : Text) (start : Moment σ κ γ) :
    List (Moment σ κ γ × HttpRequest) → Moment σ κ γ → Prop
  | start : Run serviceName start [] start
  | serve {served : List (Moment σ κ γ × HttpRequest)} {m : Moment σ κ γ} (r : HttpRequest) :
      Run serviceName start served m → Run serviceName start (served ++ [(m, r)]) (m.after serviceName r)
  | elapse {served : List (Moment σ κ γ × HttpRequest)} {m : Moment σ κ γ} {cache : κ} :
      Run serviceName start served m → WorkingCache.Later m.service.cache cache →
      Run serviceName start served (m.withCache cache)

variable {serviceName : Text} {start m : Moment σ κ γ} {served : List (Moment σ κ γ × HttpRequest)}

omit [KeyedRepository σ] in
/-- What holds at the start, and is kept by every request of the run and by time, holds before and
after every request. -/
theorem Run.induct {P : Moment σ κ γ → Prop} (h : Run serviceName start served m) (hstart : P start)
    (hserve : ∀ p ∈ served, P p.1 → P (p.1.after serviceName p.2))
    (helapse : ∀ m cache, WorkingCache.Later m.service.cache cache → P m → P (m.withCache cache)) :
    (∀ p ∈ served, P p.1 ∧ P (p.1.after serviceName p.2)) ∧ P m := by
  induction h with
  | start => exact ⟨by simp, hstart⟩
  | serve r _ ih =>
      obtain ⟨hserved, hm⟩ := ih fun p hp => hserve p (List.mem_append_left _ hp)
      have hafter := hserve _ (List.mem_append_right _ (List.mem_singleton_self _)) hm
      refine ⟨fun p hp => ?_, hafter⟩
      rcases List.mem_append.mp hp with hp | hp
      · exact hserved p hp
      · rw [List.mem_singleton.mp hp]
        exact ⟨hm, hafter⟩
  | elapse _ hlater ih =>
      obtain ⟨hserved, hm⟩ := ih hserve
      exact ⟨hserved, helapse _ _ hlater hm⟩

/-! ### Coherence -/

variable {answerTo : Json → Text} {r : HttpRequest}

/-- What a request does to the stored questions and the kept answers, and what its reply says of it. -/
theorem exists_effect (serviceName : Text) (hsource : AnswersBy γ answerTo)
    (hs : KeyedRepository.Sound m.service.questions)
    {command : Command} (hcommand : r.command? = some command) : ∃ result questions' answers',
      (m.after serviceName r).service.Shows questions' answers' ∧
      Command.Effect σ answerTo (KeyedRepository.newId m.service.questions) m.stored
        (WorkingCache.lookup m.service.cache) command result questions' answers' ∧
      (∀ data, result = .ok data → m.reply serviceName r =
        data.wire.map fun _ => (HttpResponse.ok data).forOrigin r) ∧
      ∀ f response, result = .error f → m.reply serviceName r = .ok response → response.status ≠ 200 := by
  obtain ⟨result, s', j', questions', answers', hrun, hshows, heffect⟩ :=
    Command.hasEffect serviceName m.journal hsource (s := m.service) ⟨hs, rfl, rfl⟩ command
  obtain ⟨result', j'', hreply, hok, herror⟩ :=
    Board.exists_outcome_reply m.service m.journal serviceName hcommand hrun
  refine ⟨result, questions', answers', ?_, heffect, ?_, ?_⟩
  · rw [after, hreply]
    exact hshows
  · intro data hdata
    rw [reply, hreply]
    exact hok data hdata
  · intro f response hf
    rw [reply, hreply]
    exact herror f response hf

omit [KeyedRepository σ] [WorkingCache κ] in
theorem after_service_of_none (serviceName : Text) (m : Moment σ κ γ) (h : r.command? = none) :
    (m.after serviceName r).service = m.service :=
  Board.outcome_reply_state_of_none m.service m.journal serviceName h

/-- The store is sound, and the kept answers that can be given are those to the questions that are stored. -/
structure Coherent (answerTo : Json → Text) (m : Moment σ κ γ) : Prop where
  sound : KeyedRepository.Sound m.service.questions
  current : Command.Current answerTo m.stored (WorkingCache.lookup m.service.cache)

omit [AnswerSource γ] in
theorem Coherent.withCache (h : m.Coherent answerTo) {cache : κ}
    (hlater : WorkingCache.Later m.service.cache cache) : (m.withCache cache).Coherent answerTo :=
  ⟨h.sound, fun id answer hkept => h.current id answer (WorkingCache.lookup_of_later hlater hkept)⟩

/-- A request keeps the board coherent, but for the two commands that may break it. -/
theorem Coherent.after (hsource : AnswersBy γ answerTo) (h : m.Coherent answerTo)
    (hadd : ∀ draft draft' id answer, r.command? = some (.add draft) →
      QuestionId.of (draft.id.getD .null) = .ok id → KeyedRepository.kept σ draft = some draft' →
      m.kept (KeyedRepository.newId m.service.questions id) = some answer → answer.Whole →
      answer = answerTo (.text draft'.content))
    (hremove : ∀ id target name answer, r.command? = some (.remove id) →
      QuestionId.ofText id = .ok target → KeyedRepository.named σ target = some name →
      (m.stored name).isSome → m.kept name = some answer → answer.Whole → target = name) :
    (m.after serviceName r).Coherent answerTo := by
  cases hcommand : r.command? with
  | none =>
      have hservice := after_service_of_none serviceName m hcommand
      refine ⟨?_, ?_⟩
      · rw [hservice]
        exact h.sound
      · rw [stored, hservice]
        exact h.current
  | some command =>
      obtain ⟨result, questions', answers', hshows, heffect, -, -⟩ :=
        exists_effect serviceName hsource h.sound hcommand
      refine ⟨hshows.sound, ?_⟩
      rw [stored, hshows.questions, hshows.answers]
      refine heffect.current h.current (fun draft draft' id answer heq => ?_) fun id target name answer heq => ?_
      · exact hadd draft draft' id answer (heq ▸ hcommand)
      · exact hremove id target name answer (heq ▸ hcommand)

/-- A request for an answer leads nowhere, or its reply gives the kept answer or a new one, which is all
characters then. -/
theorem exists_answer (serviceName : Text) (hsource : AnswersBy γ answerTo)
    (hs : KeyedRepository.Sound m.service.questions)
    {text : String} (hmethod : r.method = "GET")
    (hroute : Route.ofPath r.path.toList = some (.answer text)) :
    (Command.LeadsNowhere σ m.stored text ∧
      ∀ response, m.reply serviceName r = .ok response → response.status ≠ 200) ∨
      ∃ target name q, QuestionId.ofText text = .ok target ∧
        KeyedRepository.named σ target = some name ∧ m.stored name = some q ∧
        (∀ response, m.reply serviceName r = .ok response → response.status = 200 →
          ((m.kept name).getD (answerTo q.content)).Whole ∧
            response.body = .data (Command.answerData target ((m.kept name).getD (answerTo q.content)))) ∧
        ∀ answer, m.kept name = some answer → answer.Whole →
          ∃ response, m.reply serviceName r = .ok response ∧ response.status = 200 := by
  obtain ⟨result, questions', answers', -, heffect, hok, herror⟩ :=
    exists_effect serviceName hsource hs
      (HttpRequest.command?_eq_answer_iff.mpr ⟨hmethod, hroute⟩)
  cases heffect with
  | read _ hreads => exact hreads.elim
  | refused _ hrefused f => exact Or.inl ⟨hrefused, fun response => herror f response rfl⟩
  | @answered _ target name q htarget hname hq result found hresult hfound hkept =>
      refine Or.inr ⟨target, name, q, htarget, hname, hq, ?_, ?_⟩
      · intro response hresponse hstatus
        cases result with
        | error f => exact absurd hstatus (herror f response rfl hresponse)
        | ok data =>
            have hreply := hresponse.symm.trans (hok data rfl)
            obtain rfl : data = Command.answerData target ((m.kept name).getD (answerTo q.content)) :=
              hresult data rfl
            cases hwire : (Command.answerData target ((m.kept name).getD (answerTo q.content))).wire with
            | error f =>
                rw [hwire] at hreply
                cases hreply
            | ok s =>
                rw [hwire] at hreply
                refine ⟨(Command.exists_wire_answerData_iff.mp ⟨s, hwire⟩).2, ?_⟩
                rw [Except.ok.inj hreply, HttpResponse.forOrigin_body]
                rfl
      · intro answer hanswer hwhole
        obtain ⟨data, hdata⟩ := hkept (Option.isSome_of_eq_some hanswer)
        have hgiven : data = Command.answerData target ((m.kept name).getD (answerTo q.content)) :=
          hresult data hdata
        have htext : target.text.Whole := QuestionId.text_of_ofText htarget ▸ Text.whole_plain text
        obtain ⟨s, hs⟩ := Command.exists_wire_answerData_iff.mpr ⟨htext, hwhole⟩
        have hwire : data.wire = .ok s := by rw [hgiven, hanswer, Option.getD_some, hs]
        refine ⟨(HttpResponse.ok data).forOrigin r, ?_, HttpResponse.forOrigin_status _⟩
        rw [hok data hdata, hwire]
        rfl

/-- A coherent board answers freshly. -/
theorem Coherent.answersFreshly (hsource : AnswersBy γ answerTo) (h : m.Coherent answerTo)
    (serviceName : Text) : m.AnswersFreshly serviceName answerTo := by
  intro r id response hmethod hroute hresponse hstatus
  rcases exists_answer serviceName hsource h.sound hmethod hroute with
    ⟨-, hrefused⟩ | ⟨target, name, q, htarget, hname, hq, hbody, -⟩
  · exact absurd hstatus (hrefused response hresponse)
  · obtain ⟨hwhole, hgiven⟩ := hbody response hresponse hstatus
    refine ⟨target, name, q, htarget, hname, hq, ?_⟩
    rw [hgiven]
    exact congrArg (fun answer => HttpBody.data (Command.answerData target answer))
      (h.current.getD_eq hq hwhole)

/-! ### Identifiers that were asked for -/

/-- The store is sound, and each kept answer is one that can be asked for. -/
structure Asked (m : Moment σ κ γ) : Prop where
  sound : KeyedRepository.Sound m.service.questions
  request : ∀ id, (m.kept id).isSome → ∃ (r : HttpRequest) (text : String) (target : QuestionId),
      r.method = "GET" ∧ Route.ofPath r.path.toList = some (.answer text) ∧ QuestionId.ofText text = .ok target ∧
      KeyedRepository.named σ target = some id

omit [AnswerSource γ] in
theorem Asked.withCache (h : m.Asked) {cache : κ} (hlater : WorkingCache.Later m.service.cache cache) :
    (m.withCache cache).Asked := by
  refine ⟨h.sound, fun id hkept => h.request id ?_⟩
  obtain ⟨answer, hanswer⟩ := Option.isSome_iff_exists.mp hkept
  exact Option.isSome_iff_exists.mpr ⟨answer, WorkingCache.lookup_of_later hlater hanswer⟩

theorem Asked.after (hsource : AnswersBy γ answerTo) (h : m.Asked) (serviceName : Text)
    (r : HttpRequest) : (m.after serviceName r).Asked := by
  cases hcommand : r.command? with
  | none =>
      have hservice := after_service_of_none serviceName m hcommand
      refine ⟨?_, fun id hkept => h.request id ?_⟩
      · rw [hservice]
        exact h.sound
      · rw [kept, hservice] at hkept
        exact hkept
  | some command =>
      obtain ⟨result, questions', answers', hshows, heffect, -, -⟩ :=
        exists_effect serviceName hsource h.sound hcommand
      refine ⟨hshows.sound, fun id hkept => ?_⟩
      rw [kept, hshows.answers] at hkept
      rcases heffect.kept_or_answer hkept with hbefore | ⟨text, target, rfl, htarget, hname⟩
      · exact h.request id hbefore
      · obtain ⟨hmethod, hroute⟩ := HttpRequest.command?_eq_answer_iff.mp hcommand
        exact ⟨r, text, target, hmethod, hroute, htarget, hname⟩

/-- A kept answer that is all characters is given when it is asked for, so a board that answers freshly
keeps no other such answer to a stored question than its own. -/
theorem Asked.eq_of_answersFreshly (hsource : AnswersBy γ answerTo) (h : m.Asked)
    (hfresh : m.AnswersFreshly serviceName answerTo) {id : QuestionId} {answer : Text} {q : Question}
    (hkept : m.kept id = some answer) (hwhole : answer.Whole) (hq : m.stored id = some q) :
    answer = answerTo q.content := by
  obtain ⟨r, text, target, hmethod, hroute, htarget, hname⟩ := h.request id (by simp [hkept])
  rcases exists_answer serviceName hsource h.sound hmethod hroute with
    ⟨hnowhere, -⟩ | ⟨target', name', q', htarget', hname', hq', hbody, hgiven⟩
  · have hnone := hnowhere target htarget
    rw [hname, Option.bind_some, hq] at hnone
    cases hnone
  · obtain rfl := Except.ok.inj (htarget.symm.trans htarget')
    obtain rfl := Option.some.inj (hname.symm.trans hname')
    obtain ⟨response, hresponse, hstatus⟩ := hgiven answer hkept hwhole
    obtain ⟨target'', name'', q'', htarget'', hname'', hq'', hbody''⟩ :=
      hfresh r text response hmethod hroute hresponse hstatus
    obtain rfl := Except.ok.inj (htarget.symm.trans htarget'')
    obtain rfl := Option.some.inj (hname.symm.trans hname'')
    obtain rfl := Option.some.inj (hq.symm.trans hq'')
    have hsame := (hbody response hresponse hstatus).2.symm.trans hbody''
    rw [hkept, Option.getD_some] at hsame
    injection hsame with hsame
    simpa [Command.answerData] using hsame

/-! ### Whole runs -/

variable {last : Moment σ κ γ}

/-- What is kept in a run that starts without kept answers was asked for. -/
theorem Run.asked (hrun : Run serviceName start served last) (hsource : AnswersBy γ answerTo)
    (hs : KeyedRepository.Sound start.service.questions) (hempty : ∀ id, start.kept id = none) :
    ∀ p ∈ served, p.1.Asked := by
  have hstart : start.Asked := ⟨hs, fun id hkept => by simp [hempty id] at hkept⟩
  obtain ⟨hserved, -⟩ := hrun.induct hstart (fun p _ h => h.after hsource serviceName p.2)
    fun m cache hlater h => h.withCache hlater
  exact fun p hp => (hserved p hp).1

/-- A run that starts without kept answers, and whose requests keep the board coherent, does so. -/
theorem Run.coherent (hrun : Run serviceName start served last)
    (hs : KeyedRepository.Sound start.service.questions) (hempty : ∀ id, start.kept id = none)
    (hserve : ∀ p ∈ served, p.1.Coherent answerTo → (p.1.after serviceName p.2).Coherent answerTo) :
    (∀ p ∈ served, p.1.Coherent answerTo ∧ (p.1.after serviceName p.2).Coherent answerTo) ∧
      last.Coherent answerTo := by
  have hstart : start.Coherent answerTo := by
    refine ⟨hs, fun id answer hkept => ?_⟩
    have hnone := (hempty id).symm.trans hkept
    cases hnone
  exact hrun.induct hstart hserve fun m cache hlater h => h.withCache hlater

omit [WorkingCache κ] in
/-- A board whose reply gives another answer than the one to the stored content does not answer
freshly. -/
theorem not_answersFreshly_of_answer? {text : String} {answer : Text} {id name : QuestionId} {q : Question}
    (hmethod : r.method = "GET") (hroute : Route.ofPath r.path.toList = some (.answer text))
    (hid : QuestionId.ofText text = .ok id) (hname : KeyedRepository.named σ id = some name)
    (hreply : (m.reply serviceName r).toOption.bind HttpResponse.answer? = some answer)
    (hq : m.stored name = some q) (hne : answer ≠ answerTo q.content) :
    ¬m.AnswersFreshly serviceName answerTo := by
  intro hfresh
  cases hresponse : m.reply serviceName r with
  | error f =>
      rw [hresponse] at hreply
      cases hreply
  | ok response =>
      rw [hresponse] at hreply
      have hstatus := HttpResponse.status_of_answer? hreply
      obtain ⟨target, name', q', htarget, hname', hq', hbody⟩ :=
        hfresh r text response hmethod hroute hresponse hstatus
      obtain rfl := Except.ok.inj (hid.symm.trans htarget)
      obtain rfl := Option.some.inj (hname.symm.trans hname')
      obtain rfl := Option.some.inj (hq.symm.trans hq')
      have hanswer := HttpResponse.answer?_of_body hstatus hbody
      exact hne (Option.some.inj (hreply.symm.trans hanswer))

end Moment

end QuestionBoard
