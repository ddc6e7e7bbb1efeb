import Mathlib.Data.List.Forall2
import QuestionBoard.Answer.Client
import QuestionBoard.Question.Backend
import QuestionBoard.Proofs.Action.Lines
import QuestionBoard.Proofs.Answer.Calls
import QuestionBoard.Proofs.Cache.Unreliable

/-!
Answers over a cache that cannot be relied on. A call fails only as reading the question, or making the
answer, does; an answer that is given was made for a question that had the same identifier, as everything
that is kept under an identifier was; and the service complains in one line about each failure of the
cache, and about nothing else.
-/

namespace QuestionBoard

open QuestionBoard.Action

/-! ### Complaints -/

/-- Whether a line is one of the service, and at least a warning. -/
def Log.Line.isComplaint (line : Line) : Bool :=
  line.logger == AnswerService.logger && decide (Level.warning.severity ≤ line.level.severity)

def Journal.complaints (j : Journal) : List Log.Line := j.lines.filter Log.Line.isComplaint

/-- Whether a line is a warning or an error of the service that tells of a failure. -/
def UnreliableCache.Reports (f : Failure) (line : Log.Line) : Prop :=
  line.logger = AnswerService.logger ∧ (line.level = .warning ∨ line.level = .error) ∧
    ∃ before, line.message = before ++ f.message

/-- Whether what is written about a result is one complaint if the cache failed, and none otherwise. -/
def UnreliableCache.Complains {α : Type} (result : Except Failure α) (line : Option Log.Line) : Prop :=
  List.Forall₂ Reports (faults result) (line.toList.filter Log.Line.isComplaint)

namespace Journal

variable {j j' : Journal}

theorem Elsewhere.complaints_eq (h : Elsewhere AnswerService.logger j j') : j'.complaints = j.complaints := by
  obtain ⟨added, hlines, hadded⟩ := h.lines
  have hnone : added.filter Log.Line.isComplaint = [] := by
    rw [List.filter_eq_nil_iff]
    intro line hline
    simp [Log.Line.isComplaint, hadded line hline]
  rw [complaints, hlines, List.filter_append, hnone, List.append_nil, complaints]

@[simp] theorem threshold_report (line : Option Log.Line) (j : Journal) :
    (j.report line).threshold = j.threshold := by
  cases line with
  | none => rfl
  | some line =>
      change (j.write line).threshold = _
      rw [write]
      split <;> rfl

/-- The journal takes the complaints that reach its threshold. -/
theorem complaints_report (line : Option Log.Line) (j : Journal) : (j.report line).complaints =
    j.complaints ++ (line.toList.filter Log.Line.isComplaint).filter fun line =>
      decide (j.threshold ≤ line.level.severity) := by
  cases line with
  | none => exact (List.append_nil _).symm
  | some line =>
      change (j.write line).complaints = _
      rw [write]
      split
      · rename_i hthreshold
        rw [complaints, List.filter_append, complaints]
        cases hline : line.isComplaint <;> simp [hline, hthreshold]
      · rename_i hthreshold
        cases hline : line.isComplaint <;> simp [hline, hthreshold]

end Journal

namespace AnswerService

variable (id : QuestionId)

/-- A read, a write and a deletion are complained about if the cache failed. -/
theorem complains_readLine (result : Except Failure Text) :
    UnreliableCache.Complains result (readLine id result) := by
  cases result with
  | ok answer => exact .nil
  | error f =>
      cases f with
      | internal reason cause => exact .cons ⟨rfl, Or.inl rfl, _, rfl⟩ .nil
      | _ => exact .nil

theorem complains_writeLine (result : Except Failure Unit) :
    UnreliableCache.Complains result (writeLine id result) := by
  cases result with
  | ok _ => exact .nil
  | error f =>
      cases f with
      | internal reason cause => exact .cons ⟨rfl, Or.inl rfl, _, rfl⟩ .nil
      | _ => exact .nil

theorem complains_dropLine (result : Except Failure Unit) :
    UnreliableCache.Complains result (dropLine id result) := by
  cases result with
  | ok _ => exact .nil
  | error f =>
      cases f with
      | internal reason cause => exact .cons ⟨rfl, Or.inr rfl, _, rfl⟩ .nil
      | _ => exact .nil

end AnswerService

/-- The failures that the cache raised meanwhile are complained about in as many lines, one about each in
their order, of which the journal takes those that reach its threshold. -/
def UnreliableCache.Accounted (c c' : UnreliableCache) (j j' : Journal) : Prop :=
  ∃ raised lines, c'.raised = c.raised ++ raised ∧ List.Forall₂ UnreliableCache.Reports raised lines ∧
    j'.threshold = j.threshold ∧
    j'.complaints = j.complaints ++ lines.filter fun line => decide (j.threshold ≤ line.level.severity)

namespace UnreliableCache.Accounted

variable {c c' c'' : UnreliableCache} {j j' j'' : Journal}

theorem elsewhere (h : Journal.Elsewhere AnswerService.logger j j') : Accounted c c j j' :=
  ⟨[], [], (List.append_nil _).symm, .nil, h.threshold, h.complaints_eq.trans (List.append_nil _).symm⟩

theorem trans (h : Accounted c c' j j') (h' : Accounted c' c'' j' j'') : Accounted c c'' j j'' := by
  obtain ⟨raised, lines, hraised, hreports, hthreshold, hlines⟩ := h
  obtain ⟨raised', lines', hraised', hreports', hthreshold', hlines'⟩ := h'
  refine ⟨raised ++ raised', lines ++ lines', ?_, List.rel_append hreports hreports',
    hthreshold'.trans hthreshold, ?_⟩
  · rw [hraised', hraised, List.append_assoc]
  · rw [hlines', hlines, hthreshold, List.filter_append, List.append_assoc]

/-- An operation of the cache, and the line about its result. -/
theorem report {α : Type} {R : Text → Text → Prop} {result : Except Failure α}
    (h : UnreliableCache.Does R c j ⟨result, c', j'⟩) {line : Option Log.Line}
    (hline : Complains result line) :
    Accounted c c' j (j'.report line) := by
  obtain rfl : j' = j := h.journal
  exact ⟨faults result, _, h.raised, hline, j'.threshold_report line, j'.complaints_report line⟩

end UnreliableCache.Accounted

/-! ### One call -/

open UnreliableCache (Accounted)

variable {σ γ : Type} [QuestionRepository σ] [AnswerSource γ]
  {start m m' : Moment σ UnreliableCache (WatchedSource γ)} {call : ServiceCall}
  {served : List (Moment σ UnreliableCache (WatchedSource γ) × ServiceCall)}

/-- The store and the source write no line in the name of the service. -/
structure AnswerService.WritesApart (σ γ : Type) [QuestionRepository σ] [AnswerSource γ] : Prop where
  get (id : QuestionId) : WritesElsewhere AnswerService.logger (QuestionRepository.get id : Action σ Question)
  answer (question : Json) :
    WritesElsewhere AnswerService.logger (AnswerSource.answer question : Action γ Text)

/-- The stores write in their own names. -/
theorem QuestionBackend.writesElsewhere_get (id : QuestionId) :
    WritesElsewhere AnswerService.logger (QuestionRepository.get id : Action QuestionBackend Question) := by
  have hmemory : WritesElsewhere AnswerService.logger (QuestionStore.find id) := by
    unfold QuestionStore.find
    refine Action.writesElsewhere_get.bind fun s => ?_
    split
    · exact writesElsewhere_pure _
    · exact writesElsewhere_throw _
  have hconnected : ∀ statement, WritesElsewhere AnswerService.logger
      (QuestionDatabase.connected (α := Option QuestionRecord) "get" statement) := by
    intro statement
    unfold QuestionDatabase.connected
    refine (writesElsewhere_modify _).bind fun _ => Action.writesElsewhere_get.bind fun d => ?_
    split
    · exact (writesElsewhere_set _).bind fun _ => writesElsewhere_pure _
    · split
      · exact (writesElsewhere_log (by decide)).bind fun _ => writesElsewhere_throw _
      · exact writesElsewhere_throw _
  have hrelational : WritesElsewhere AnswerService.logger (QuestionDatabase.find id) := by
    unfold QuestionDatabase.find
    refine (writesElsewhere_ofExcept _).bind fun key => (hconnected _).bind fun r => ?_
    split
    · exact writesElsewhere_pure _
    · exact writesElsewhere_throw _
  intro backend j
  cases backend with
  | memory store => exact hmemory store j
  | relational database => exact hrelational database j

/-- The client of a server of answers writes in its own name. -/
theorem AnswerClient.writesElsewhere_answer {ρ : Type} [AnswerServer ρ] (question : Json) :
    WritesElsewhere AnswerService.logger (AnswerSource.answer question : Action (AnswerClient ρ) Text) := by
  have hread : WritesElsewhere AnswerService.logger (AnswerClient.readClock (ρ := ρ)) := by
    unfold AnswerClient.readClock
    exact writesElsewhere_get.bind fun c => (writesElsewhere_set _).bind fun _ => writesElsewhere_pure _
  have hsession : WritesElsewhere AnswerService.logger (AnswerClient.currentSession (ρ := ρ)) := by
    unfold AnswerClient.currentSession
    refine writesElsewhere_get.bind fun c => ?_
    split
    · exact writesElsewhere_pure _
    · exact (writesElsewhere_set _).bind fun _ => writesElsewhere_pure _
  have hpost : ∀ session, WritesElsewhere AnswerService.logger
      (AnswerClient.post (ρ := ρ) session question) := by
    intro session
    unfold AnswerClient.post
    exact writesElsewhere_get.bind fun c => (writesElsewhere_set _).bind fun _ => writesElsewhere_ofExcept _
  have hdata : ∀ reply, WritesElsewhere AnswerService.logger (AnswerClient.replyData (ρ := ρ) reply) := by
    intro reply
    unfold AnswerClient.replyData
    split
    · exact (writesElsewhere_ofExcept _).bind fun said => (writesElsewhere_log (by decide)).bind fun _ =>
        writesElsewhere_throw _
    · exact writesElsewhere_ofExcept _
  have htranslated : ∀ f, WritesElsewhere AnswerService.logger (AnswerClient.translated (ρ := ρ) f) := by
    intro f
    unfold AnswerClient.translated
    cases htimeout : f.isFault FaultKind.isTimeout with
    | true => exact (writesElsewhere_log (by decide)).bind fun _ => writesElsewhere_throw_bind _ _
    | false =>
        cases hclient : (f.isFault FaultKind.isHttpClient || f.isFault FaultKind.isValue) with
        | true => exact (writesElsewhere_log (by decide)).bind fun _ => writesElsewhere_throw_bind _ _
        | false => exact writesElsewhere_throw _
  have hask : WritesElsewhere AnswerService.logger (AnswerClient.ask (ρ := ρ) question) := by
    unfold AnswerClient.ask
    refine hsession.bind fun session => ((hpost session).bind hdata).attempt.bind fun result => ?_
    rcases result with f | data
    on_goal 1 => refine (htranslated f).bind fun data => ?_
    on_goal 2 => refine (writesElsewhere_pure data).bind fun data => ?_
    all_goals
      beta_reduce
      cases AnswerClient.answerText? data with
      | some answer => exact writesElsewhere_pure answer
      | none => exact (writesElsewhere_log (by decide)).bind fun _ => writesElsewhere_throw _
  refine hread.timed ?_ hask
  decide

theorem AnswerService.writesApart_backend_client {ρ : Type} [AnswerServer ρ] :
    WritesApart QuestionBackend (AnswerClient ρ) :=
  ⟨QuestionBackend.writesElsewhere_get, AnswerClient.writesElsewhere_answer⟩

theorem ServiceCall.accounted (hapart : AnswerService.WritesApart σ γ) (call : ServiceCall)
    (m : Moment σ UnreliableCache (WatchedSource γ)) :
    Accounted m.service.cache (call.after m).service.cache m.journal (call.after m).journal := by
  have hcourse := call.course m
  generalize call.asks m = asked at hcourse
  generalize call.reply m = result at hcourse
  generalize call.after m = m' at hcourse ⊢
  cases hcourse with
  | unread hread => exact .elsewhere ((hapart.get _).of_outcome hread)
  | reused hread hkept =>
      have hquestion := (hapart.get _).of_outcome hread
      have hcache := UnreliableCache.does_get hkept
      exact (Accounted.elsewhere hquestion).trans (.report hcache (AnswerService.complains_readLine _ _))
  | failed hread hkept hmade =>
      have hquestion := (hapart.get _).of_outcome hread
      have hcache := UnreliableCache.does_get hkept
      have hsource := (hapart.answer _).of_outcome hmade
      exact (Accounted.elsewhere hquestion).trans
        ((Accounted.report hcache (AnswerService.complains_readLine _ _)).trans (.elsewhere hsource))
  | made hread hkept hmade hset =>
      have hquestion := (hapart.get _).of_outcome hread
      have hcache := UnreliableCache.does_get hkept
      have hsource := (hapart.answer _).of_outcome hmade
      have hcache' := UnreliableCache.does_set hset
      exact (Accounted.elsewhere hquestion).trans
        ((Accounted.report hcache (AnswerService.complains_readLine _ _)).trans
          ((Accounted.elsewhere hsource).trans (.report hcache' (AnswerService.complains_writeLine _ _))))
  | invalidated hdelete =>
      exact .report (UnreliableCache.does_delete hdelete) (AnswerService.complains_dropLine _ _)

/-- With the board's own stores and the client of a server of answers, which write in names of their own,
every failure of the cache is complained about. -/
theorem ServiceCall.accounted_backend_client {ρ : Type} [AnswerServer ρ] (call : ServiceCall)
    (m : Moment QuestionBackend UnreliableCache (WatchedSource (AnswerClient ρ))) :
    Accounted m.service.cache (call.after m).service.cache m.journal (call.after m).journal :=
  call.accounted AnswerService.writesApart_backend_client m

/-- A call fails only as reading its question, or making the answer, does. -/
theorem ServiceCall.reply_eq_error {target : QuestionId} {f : Failure}
    (h : ServiceCall.reply (.answer target) m = .error f) :
    (outcome (QuestionRepository.get target) m.service.questions m.journal).result = .error f ∨
      ∃ q, (outcome (QuestionRepository.get target) m.service.questions m.journal).result = .ok q ∧
        ServiceCall.asks (.answer target) m = [(q.content, .error f)] := by
  have hcourse := ServiceCall.course (.answer target) m
  rw [h] at hcourse
  generalize ServiceCall.asks (.answer target) m = asked at hcourse ⊢
  generalize ServiceCall.after (.answer target) m = m' at hcourse
  cases hcourse with
  | unread hread => exact Or.inl (congrArg Outcome.result hread)
  | failed hread hkept hmade => exact Or.inr ⟨_, congrArg Outcome.result hread, rfl⟩

theorem ServiceCall.exists_reply_invalidate (id : QuestionId)
    (m : Moment σ UnreliableCache (WatchedSource γ)) :
    ∃ dropped, ServiceCall.reply (.invalidate id) m = .ok (.invalidated dropped) := by
  have hcourse := ServiceCall.course (.invalidate id) m
  generalize ServiceCall.reply (.invalidate id) m = result at hcourse ⊢
  generalize ServiceCall.asks (.invalidate id) m = asked at hcourse
  generalize ServiceCall.after (.invalidate id) m = m' at hcourse
  cases hcourse with
  | invalidated hdelete => exact ⟨_, rfl⟩

/-! ### What is kept, and given -/

/-- Everything that is kept under an identifier was made for a question with it. -/
def CallRun.Stems (served : List (Moment σ UnreliableCache (WatchedSource γ) × ServiceCall))
    (m : Moment σ UnreliableCache (WatchedSource γ)) : Prop :=
  ∀ id text, m.service.cache.entries (AnswerService.cacheKey id) = some text →
    ∃ p ∈ served, ServiceCall.Makes id text p

namespace CallRun.Stems

/-- A call keeps nothing but what was kept, or what it makes. -/
theorem after (h : Stems served m) (call : ServiceCall) : Stems (served ++ [(m, call)]) (call.after m) := by
  have hcourse := call.course m
  have hlift : ∀ {id text}, m.service.cache.entries (AnswerService.cacheKey id) = some text →
      ∃ p ∈ served ++ [(m, call)], ServiceCall.Makes id text p := by
    intro id text hentry
    obtain ⟨p, hp, hmakes⟩ := h id text hentry
    exact ⟨p, List.mem_append_left _ hp, hmakes⟩
  generalize hasks : call.asks m = asked at hcourse
  generalize call.reply m = result at hcourse
  generalize call.after m = m' at hcourse ⊢
  intro id text hentry
  cases hcourse with
  | unread hread => exact hlift hentry
  | reused hread hkept | failed hread hkept hmade =>
      exact hlift (((UnreliableCache.does_get hkept).entries _ _ hentry).resolve_right not_false)
  | @made target q _ _ _ _ _ _ _ _ _ _ _ hread hkept hmade hset =>
      rcases (UnreliableCache.does_set hset).entries _ _ hentry with hold | ⟨hkey, rfl⟩
      · exact hlift (((UnreliableCache.does_get hkept).entries _ _ hold).resolve_right not_false)
      · obtain rfl := AnswerService.cacheKey_injective hkey
        exact ⟨(m, .answer target), by simp, target, q, rfl, congrArg Outcome.result hread, rfl, hasks⟩
  | invalidated hdelete =>
      exact hlift (((UnreliableCache.does_delete hdelete).entries _ _ hentry).resolve_right not_false)

/-- An answer that is given was made for a question with the same identifier. -/
theorem exists_makes (h : Stems served m) {target : QuestionId} {q : Question} {text : Text}
    (hget : (outcome (QuestionRepository.get target) m.service.questions m.journal).result = .ok q)
    (hreply : ServiceCall.reply (.answer target) m = .ok (.answer text)) :
    ∃ p ∈ served ++ [(m, .answer target)], ServiceCall.Makes q.id text p := by
  have hcourse := ServiceCall.course (.answer target) m
  rw [hreply] at hcourse
  generalize hasks : ServiceCall.asks (.answer target) m = asked at hcourse
  generalize ServiceCall.after (.answer target) m = m' at hcourse
  cases hcourse with
  | reused hread hkept =>
      obtain rfl := Except.ok.inj ((congrArg Outcome.result hread).symm.trans hget)
      obtain ⟨p, hp, hmakes⟩ := h _ _ (UnreliableCache.entries_of_get hkept)
      exact ⟨p, List.mem_append_left _ hp, hmakes⟩
  | made hread hkept hmade hset =>
      obtain rfl := Except.ok.inj ((congrArg Outcome.result hread).symm.trans hget)
      exact ⟨_, List.mem_append_right _ (List.mem_singleton_self _), target, _, rfl, hget, rfl, hasks⟩

end CallRun.Stems

theorem CallRun.stems (hrun : CallRun UnreliableCache.Forgets start served m)
    (hempty : ∀ key, start.service.cache.entries key = none) : Stems served m := by
  induction hrun with
  | start =>
      intro id text hentry
      rw [hempty] at hentry
      cases hentry
  | serve call _ ih => exact ih.after call
  | change questions _ ih => exact ih
  | pass _ hforgets ih =>
      obtain ⟨forgotten, rfl⟩ := hforgets
      exact fun id text hentry => ih id text (UnreliableCache.entries_of_forget hentry)

/-- Over a cache that may forget anything at any time, and whose operations may each fail, a call fails only
as reading the question or making the answer does, and invalidating never fails; an answer that is given was
made for a question that had the same identifier then; and the failures that the cache raises during a call
are complained about in as many lines, one about each. -/
theorem CallRun.reply_over_unreliable (hrun : CallRun UnreliableCache.Forgets start served m)
    (hempty : ∀ key, start.service.cache.entries key = none) :
    (∀ target f, ServiceCall.reply (.answer target) m = .error f →
      (outcome (QuestionRepository.get target) m.service.questions m.journal).result = .error f ∨
        ∃ q, (outcome (QuestionRepository.get target) m.service.questions m.journal).result = .ok q ∧
          ServiceCall.asks (.answer target) m = [(q.content, .error f)]) ∧
    (∀ id, ∃ dropped, ServiceCall.reply (.invalidate id) m = .ok (.invalidated dropped)) ∧
    (∀ target q text,
      (outcome (QuestionRepository.get target) m.service.questions m.journal).result = .ok q →
      ServiceCall.reply (.answer target) m = .ok (.answer text) →
        ∃ p ∈ served ++ [(m, .answer target)], ServiceCall.Makes q.id text p) ∧
    (AnswerService.WritesApart σ γ → ∀ call : ServiceCall,
      Accounted m.service.cache (call.after m).service.cache m.journal (call.after m).journal) :=
  ⟨fun _ _ => ServiceCall.reply_eq_error, fun id => ServiceCall.exists_reply_invalidate id m,
    fun _ _ _ => (hrun.stems hempty).exists_makes, fun hapart call => call.accounted hapart m⟩

section Example

def ninth (content : Text) : Question :=
  { id := ⟨"9", by decide⟩, title := .text "Title", content := .text content, tags := none }

/-- A service over question 9, with a cache whose first operation fails. -/
def unsteady : Moment QuestionBackend UnreliableCache (WatchedSource EchoSource) :=
  ⟨{ questions := .memory (.ofList [ninth "first"])
     cache := { mishaps := fun n => if n = 0 then { fault := some ("cache down", none) } else {} }
     source := { source := {} } },
    .verbose⟩

/-- The service when it was asked for the answer. -/
def askedUnsteadily : Moment QuestionBackend UnreliableCache (WatchedSource EchoSource) :=
  ServiceCall.after (.answer (ninth "first").id) unsteady

/-- The service when the question was replaced as well. -/
def unsteadyLater : Moment QuestionBackend UnreliableCache (WatchedSource EchoSource) :=
  { askedUnsteadily with
    service := { askedUnsteadily.service with questions := .memory (.ofList [ninth "second"]) } }

/-- The read that fails is complained about, and the answer that was made then is kept and given later. -/
theorem reply_unsteadyLater :
    ServiceCall.reply (.answer (ninth "first").id) unsteadyLater = .ok (.answer "Answer to first") ∧
    unsteadyLater.journal.complaints.map Log.Line.message =
      ["Answer cache read failed for question 9: Internal error: cache down"] ∧
    (∃ p ∈ [(unsteady, ServiceCall.answer (ninth "first").id), (unsteadyLater, .answer (ninth "first").id)],
      ServiceCall.Makes (ninth "second").id "Answer to first" p) ∧
    Accounted unsteady.service.cache askedUnsteadily.service.cache unsteady.journal
      askedUnsteadily.journal := by
  have hapart : AnswerService.WritesApart QuestionBackend EchoSource :=
    ⟨QuestionBackend.writesElsewhere_get, fun _ => writesElsewhere_pure _⟩
  have hempty : ∀ key, unsteady.service.cache.entries key = none := fun _ => rfl
  have hreply : ServiceCall.reply (.answer (ninth "first").id) unsteadyLater =
      .ok (.answer "Answer to first") := rfl
  have hstart : CallRun UnreliableCache.Forgets unsteady [] unsteady := .start
  obtain ⟨-, -, -, haccounted⟩ := hstart.reply_over_unreliable hempty
  obtain ⟨-, -, hmakes, -⟩ :=
    CallRun.reply_over_unreliable (.change _ (.serve (.answer (ninth "first").id) hstart)) hempty
  exact ⟨hreply, by decide +kernel, hmakes _ (ninth "second") _ rfl hreply, haccounted hapart _⟩

end Example

end QuestionBoard
