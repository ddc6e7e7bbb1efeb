import QuestionBoard.Proofs.Answer.Documented
import QuestionBoard.Proofs.Board.Run

/-!
Requests that fail. A board that was filled by requests, on a store of either kind, answers a request
with its data or with the response for its failure, whatever fails around it: the connections to its
database, its cache and its source of answers. It leaves a request without a response in three cases: a
number with more digits than are read, as a bound of a listing or, on a relational store, as an
identifier; a content with a half, when it comes to the table of a relational store; and data with a
half, when they are about to go over the wire.
-/

namespace QuestionBoard

open QuestionBoard.Action QuestionBoard.AnswerService

/-! ### Commands -/

/-- Whether a text, read as an identifier, has too many digits for a key. -/
def QuestionId.TextTooLong (id : String) : Prop := TooManyDigits (signed id.toList).2

theorem QuestionId.settles_ofText (id : String) :
    Settles Failure.Reported (fun target => target.text = .plain id) (ofText id) := by
  cases hid : ofText id with
  | error f => exact (malformed_of_ofText hid).reported
  | ok target => exact text_of_ofText hid

theorem QuestionId.settles_of (data : Json) :
    Settles Failure.Reported (fun _ => True) (of data) :=
  settles_of_error fun _ h => (malformed_of_of h).reported

namespace Command

/-- Whether a command, on a store that is relational or not, reads a number that is too long. -/
def ReadsTooLong (relational : Bool) : Command → Prop
  | .describe | .add _ => False
  | .list parameters => Window.TooLong parameters
  | .find id | .replace id _ | .remove id | .answer id => relational = true ∧ QuestionId.TextTooLong id

def content? : Command → Option Text
  | .add draft | .replace _ draft => some draft.content
  | _ => none

/-- The content that a command writes to a relational table, if the identifier that comes with it can be
read as the table needs it. -/
inductive Writes : Command → Text → Prop
  | add {draft : QuestionDraft} {id : QuestionId} (hid : QuestionId.of (draft.id.getD .null) = .ok id) :
      Writes (.add draft) draft.content
  | replace {id : String} {draft : QuestionDraft} {target : QuestionId} {key : Int}
      (htarget : QuestionId.ofText id = .ok target) (hkey : target.toKey = .ok key) :
      Writes (.replace id draft) draft.content

/-- Whether the parameters of a command, if it has some, are texts. -/
def Texts : Command → Prop
  | .list parameters => Selection.Texts parameters
  | _ => True

/-- The parameters of a request are texts. -/
theorem texts_of_command? {r : HttpRequest} {command : Command}
    (h : r.command? = some command) : command.Texts := by
  obtain ⟨route, -, hcommand⟩ := HttpRequest.exists_route h
  rw [ofRequest.eq_def] at hcommand
  split at hcommand
  case h_2 =>
    cases hcommand
    refine Selection.texts_ofEntries fun entry hentry => ?_
    obtain ⟨parameter, -, rfl⟩ := List.mem_map.mp hentry
    exact ⟨parameter.2, rfl⟩
  case h_3 | h_5 =>
    obtain ⟨a, rfl⟩ := HttpRequest.exists_of_readBody (congrArg Except.toOption hcommand)
    exact trivial
  all_goals
    cases hcommand
    try exact trivial

variable {κ γ : Type}

/-- Whether a command writes a content with a half to a table that can be reached. -/
def StoresHalf (command : Command) (s : AnswerService QuestionBackend κ γ) : Prop :=
  ∃ content d t, command.Writes content ∧ ¬content.Whole ∧ s.questions = .relational d ∧ d.Serves t

variable [Cache κ] [DocumentedCache κ] [AnswerSource γ] [DocumentedSource γ] {relational : Bool}
  {reachable : Prop}

theorem keeps_response {σ : Type} {I : σ → Prop} {P : Failure → Prop} {q : Question} (h : q.Textual) :
    Keeps I P (fun data => data.hasUnbounded = false) (Action.ofExcept q.response : Action σ Json) := by
  rw [h.response]
  exact keeps_ofExcept h.hasUnbounded_toData

/-- A step for an identifier keeps what it keeps for each. -/
theorem keeps_target {σ α : Type} {I : σ → Prop} {Q : α → Prop} {id : String}
    {next : QuestionId → Action σ α}
    (h : ∀ target, Keeps I (Failure.Expected (relational = true ∧ target.TooLong)) Q (next target)) :
    Keeps I (Failure.Expected (relational = true ∧ QuestionId.TextTooLong id)) Q
      (Action.ofExcept (QuestionId.ofText id) >>= next) := by
  refine (keeps_ofExcept (QuestionId.settles_ofText id)).expected.bind fun target htarget => ?_
  have hlong : target.TooLong ↔ QuestionId.TextTooLong id := by
    rw [QuestionId.TooLong, htarget, QuestionId.TextTooLong, Text.chars_plain]
  rw [← hlong]
  exact h target

open QuestionBackend in
/-- A command keeps a store of texts and fails with what is reported, unless it reads a number that is too
long, or brings a content with a half to a table that can be reached. Its data have no numbers that JSON has
not. -/
theorem keeps_run (serviceName : Text) (command : Command) (htexts : command.Texts)
    (hwhole : ∀ content, command.content? = some content → relational = true → reachable → content.Whole) :
    Keeps (Stores (Ordinary relational reachable)) (Failure.Expected (command.ReadsTooLong relational))
      (fun data => data.hasUnbounded = false)
      (command.run serviceName : Action (AnswerService QuestionBackend κ γ) Json) := by
  have hstore := keepsTexts relational reachable
  cases command with
  | describe => exact keeps_pure rfl
  | list parameters =>
      refine (keeps_ofExcept (Selection.settles_ofParameters htexts)).bind fun selection _ => ?_
      refine (keeps_onQuestions (hstore.list selection)).expected.bind fun questions hquestions => ?_
      refine Keeps.bind (keeps_ofExcept (settles_mapM (R := fun data => data.hasUnbounded = false)
        fun q hq => ?_)) fun data hdata => keeps_pure (Json.anyUnboundedItem_eq_false hdata)
      rw [(hquestions q hq).response]
      exact (hquestions q hq).hasUnbounded_toData
  | find id =>
      refine keeps_target fun target => ?_
      exact (keeps_onQuestions (hstore.get target)).bind fun q hq => keeps_response hq
  | add draft =>
      refine (keeps_ofExcept (QuestionId.settles_of _)).expected.bind fun id _ => ?_
      refine (keeps_onQuestions (hstore.add draft id (hwhole _ rfl))).expected.bind fun q hq => ?_
      exact keeps_log.bind fun _ _ => keeps_response hq
  | replace id draft =>
      refine keeps_target fun target => ?_
      refine (keeps_onQuestions (hstore.update draft target (hwhole _ rfl))).bind fun q hq => ?_
      refine (keeps_invalidate q.id).bind fun _ _ => ?_
      exact keeps_log.bind fun _ _ => keeps_response hq
  | remove id =>
      refine keeps_target fun target => ?_
      refine (keeps_onQuestions (hstore.delete target)).bind fun _ _ => ?_
      refine (keeps_invalidate target).bind fun _ _ => ?_
      exact keeps_log.bind fun _ _ => keeps_pure rfl
  | answer id =>
      refine keeps_target fun target => ?_
      exact (keeps_answerFor hstore target).bind fun answer _ => keeps_pure rfl

/-! ### Steps on a database -/

section relational

variable {s : AnswerService QuestionBackend κ γ} {d : QuestionDatabase} {id : String} {j : Journal}

omit [Cache κ] [DocumentedCache κ] [AnswerSource γ] [DocumentedSource γ] in
/-- What a step on the database of a board comes to on the board. -/
theorem outcome_onQuestions {α : Type} {onMemory : Action QuestionStore α}
    {onDatabase : Action QuestionDatabase α} (hd : s.questions = .relational d) :
    (onQuestions (QuestionBackend.step onMemory onDatabase) :
      Action (AnswerService QuestionBackend κ γ) α).outcome s j =
      ⟨(onDatabase.outcome d j).result, { s with questions := .relational (onDatabase.outcome d j).state },
        (onDatabase.outcome d j).journal⟩ := by
  obtain ⟨questions, cache, source, lifetime⟩ := s
  obtain rfl : questions = .relational d := hd
  rfl

omit [Cache κ] [DocumentedCache κ] [AnswerSource γ] [DocumentedSource γ] in
/-- On a relational store a step fails with what is said of an identifier that is too long, if it fails
with what is said of any that is no key. -/
theorem exists_result_of_textTooLong {α : Type}
    {next : QuestionId → Action (AnswerService QuestionBackend κ γ) α}
    (hs : Stores (QuestionBackend.Ordinary relational reachable) s)
    (h : relational = true ∧ QuestionId.TextTooLong id)
    (hnext : ∀ d target f, s.questions = .relational d → target.toKey = .error f →
      ((next target).outcome s j).result = .error f) :
    ∃ n, ((Action.ofExcept (QuestionId.ofText id) >>= next).outcome s j).result =
      .error (.integerTooLong n) := by
  obtain ⟨hrelational, hlong⟩ := h
  have hne : (id : Text) ≠ "" := by
    intro hempty
    obtain rfl := Text.plain.inj hempty
    exact absurd hlong.2 (by decide)
  let target : QuestionId := ⟨id, hne⟩
  have hid : QuestionId.ofText id = .ok target := dif_neg hne
  have hkey : target.toKey = .error (.integerTooLong _) := QuestionId.toKey_of_tooLong hlong
  refine ⟨(QuestionId.signed id.toList).2.length, ?_⟩
  rw [hid, outcome_bind, outcome_ofExcept, andThen_ok]
  cases hquestions : s.questions with
  | memory store =>
      unfold Stores at hs
      rw [hquestions] at hs
      exact absurd (hs.1.symm.trans hrelational) (by decide)
  | relational d => exact hnext d _ _ hquestions hkey

omit [DocumentedCache κ] [DocumentedSource γ] in
/-- A command that reads a number that is too long says so. -/
theorem exists_result_run_of_readsTooLong (serviceName : Text) {command : Command}
    (hs : Stores (QuestionBackend.Ordinary relational reachable) s) (h : command.ReadsTooLong relational) :
    ∃ n, ((command.run serviceName).outcome s j).result = .error (.integerTooLong n) := by
  have hquestions : ∀ {α : Type} {onMemory : Action QuestionStore α} {onDatabase : Action QuestionDatabase α}
      {d f}, s.questions = .relational d → onDatabase.outcome d j = ⟨.error f, d, j⟩ →
      ((onQuestions (QuestionBackend.step onMemory onDatabase) :
        Action (AnswerService QuestionBackend κ γ) α).outcome s j).result = .error f := by
    intro α onMemory onDatabase d f hd houtcome
    rw [outcome_onQuestions hd, houtcome]
  cases command with
  | describe | add draft => exact h.elim
  | list parameters =>
      obtain ⟨n, hread⟩ := Selection.ofParameters_of_tooLong h
      exact ⟨n, result_bind_of_error s j hread⟩
  | find id =>
      refine exists_result_of_textTooLong hs h fun d target f hd hkey => ?_
      have hfind := QuestionDatabase.outcome_find_of_error (d := d) j hkey
      exact result_bind_of_error s j (hquestions hd hfind)
  | replace id draft =>
      refine exists_result_of_textTooLong hs h fun d target f hd hkey => ?_
      have hupdate := QuestionDatabase.outcome_update_of_error (d := d) j hkey (draft.question target) rfl
      exact result_bind_of_error s j (hquestions hd hupdate)
  | remove id =>
      refine exists_result_of_textTooLong hs h fun d target f hd hkey => ?_
      have hdelete := QuestionDatabase.outcome_delete_of_error (d := d) j hkey
      exact result_bind_of_error s j (hquestions hd hdelete)
  | answer id =>
      refine exists_result_of_textTooLong hs h fun d target f hd hkey => ?_
      have hfind := QuestionDatabase.outcome_find_of_error (d := d) j hkey
      exact result_bind_of_error s j (result_bind_of_error s j (hquestions hd hfind))

end relational

/-! ### Contents with halves -/

section halves

variable {s : AnswerService QuestionBackend κ γ} {j : Journal} {command : Command} {content : Text}

theorem Writes.content?_eq (h : command.Writes content) : command.content? = some content := by
  cases h <;> rfl

section relational

variable {d d' : QuestionDatabase} {draft : QuestionDraft} {target : QuestionId} {f : Failure}

omit [DocumentedCache κ] [DocumentedSource γ] in
theorem outcome_run_add_of_error (serviceName : Text) (hd : s.questions = .relational d)
    (hid : QuestionId.of (draft.id.getD .null) = .ok target)
    (hadd : outcome (QuestionRepository.add (draft.question target)) d j = ⟨.error f, d', j⟩) :
    ((add draft).run serviceName).outcome s j = ⟨.error f, { s with questions := .relational d' }, j⟩ := by
  rw [run, hid, outcome_bind, outcome_ofExcept, andThen_ok, outcome_bind]
  change Outcome.andThen ((onQuestions (QuestionBackend.step _ _)).outcome _ j) _ = _
  rw [outcome_onQuestions hd, hadd]
  rfl

omit [DocumentedCache κ] [DocumentedSource γ] in
theorem outcome_run_replace_of_error (serviceName : Text) {id : String} (hd : s.questions = .relational d)
    (hid : QuestionId.ofText id = .ok target)
    (hupdate : outcome (QuestionRepository.update (draft.question target)) d j = ⟨.error f, d', j⟩) :
    ((replace id draft).run serviceName).outcome s j =
      ⟨.error f, { s with questions := .relational d' }, j⟩ := by
  rw [run, hid, outcome_bind, outcome_ofExcept, andThen_ok, outcome_bind]
  change Outcome.andThen ((onQuestions (QuestionBackend.step _ _)).outcome _ j) _ = _
  rw [outcome_onQuestions hd, hupdate]
  rfl

end relational

omit [DocumentedCache κ] [DocumentedSource γ] in
/-- A command that brings a content with a half to a table that can be reached fails: for the half if it
writes the content there, and otherwise because its identifier cannot be read. -/
theorem exists_outcome_run_of_half (serviceName : Text) {d : QuestionDatabase} {t : QuestionTable}
    (hordinary : d.Ordinary True) (hd : s.questions = .relational d) (hserves : d.Serves t)
    (hcontent : command.content? = some content) (hhalf : ¬content.Whole) :
    ∃ f questions, (command.run serviceName).outcome s j = ⟨.error f, { s with questions }, j⟩ ∧
      questions.Ordinary true True ∧
      (command.Writes content ∧ f.SaysUnencodable ∨
        ¬command.Writes content ∧ f.Expected (command.ReadsTooLong true)) := by
  have hsame : s = { s with questions := .relational d } := by
    rw [← hd]
  have hopened : (QuestionBackend.relational (d.opened t)).Ordinary true True :=
    ⟨rfl, hordinary.opened hserves⟩
  cases command with
  | add draft =>
      cases hcontent
      cases hid : QuestionId.of (draft.id.getD .null) with
      | error f =>
          refine ⟨f, .relational d, ?_, ⟨rfl, hordinary⟩, Or.inr ⟨?_, ?_⟩⟩
          · rw [run, hid, ← hsame]
            rfl
          · intro hwrites
            cases hwrites with
            | add hid' => cases hid.symm.trans hid'
          · exact Or.inl (QuestionId.malformed_of_of hid).reported
      | ok id =>
          obtain ⟨f, hf, hadd⟩ := QuestionDatabase.exists_outcome_add_of_not_whole j hserves hhalf id
          exact ⟨f, .relational (d.opened t), outcome_run_add_of_error serviceName hd hid hadd, hopened,
            Or.inl ⟨.add hid, hf⟩⟩
  | replace id draft =>
      cases hcontent
      cases hid : QuestionId.ofText id with
      | error f =>
          refine ⟨f, .relational d, ?_, ⟨rfl, hordinary⟩, Or.inr ⟨?_, ?_⟩⟩
          · rw [run, hid, ← hsame]
            rfl
          · intro hwrites
            cases hwrites with
            | replace htarget _ => cases hid.symm.trans htarget
          · exact Or.inl (QuestionId.malformed_of_ofText hid).reported
      | ok target =>
          cases hkey : target.toKey with
          | error f =>
              have hsettles := target.settles_toKey
              rw [hkey] at hsettles
              have hlong : target.TooLong → QuestionId.TextTooLong id := by
                rw [QuestionId.TooLong, QuestionId.text_of_ofText hid]
                exact fun h => h
              have hupdate :=
                QuestionDatabase.outcome_update_of_error (d := d) j hkey _ (draft.question_id target)
              refine ⟨f, .relational d, outcome_run_replace_of_error serviceName hd hid hupdate,
                ⟨rfl, hordinary⟩, Or.inr ⟨?_, ?_⟩⟩
              · intro hwrites
                cases hwrites with
                | replace htarget hkey' =>
                    cases hid.symm.trans htarget
                    cases hkey.symm.trans hkey'
              · exact Failure.Expected.imp hsettles fun h => ⟨rfl, hlong h⟩
          | ok key =>
              obtain ⟨f, hf, hupdate⟩ :=
                QuestionDatabase.exists_outcome_update_of_not_whole j hserves hhalf hkey
              exact ⟨f, .relational (d.opened t), outcome_run_replace_of_error serviceName hd hid hupdate,
                hopened, Or.inl ⟨.replace hid hkey, hf⟩⟩
  | _ => cases hcontent

/-- What a command comes to on a store of texts, and what it says of halves that it writes. -/
theorem outcome_run_cases (serviceName : Text) (htexts : command.Texts)
    (hs : Stores (QuestionBackend.Ordinary relational True) s) :
    let o := (command.run serviceName).outcome s j
    Stores (QuestionBackend.Ordinary relational True) o.state ∧
      (command.StoresHalf s ∧ (∃ f, f.SaysUnencodable ∧ o.result = .error f) ∨
        ¬command.StoresHalf s ∧ Settles (Failure.Expected (command.ReadsTooLong relational))
          (fun data => data.hasUnbounded = false) o.result) := by
  intro o
  by_cases hhalf : ∃ content d t, command.content? = some content ∧ ¬content.Whole ∧
      s.questions = .relational d ∧ d.Serves t
  · obtain ⟨content, d, t, hcontent, hhalf, hd, hserves⟩ := hhalf
    obtain ⟨rfl, hordinary⟩ : relational = true ∧ d.Ordinary True := by
      unfold Stores at hs
      rwa [hd] at hs
    obtain ⟨f, questions, houtcome, hordinary', ⟨hwrites, hsays⟩ | ⟨hwrites, hexpected⟩⟩ :=
      exists_outcome_run_of_half serviceName (j := j) hordinary hd hserves hcontent hhalf
    · simp only [o, houtcome]
      exact ⟨hordinary', Or.inl ⟨⟨content, d, t, hwrites, hhalf, hd, hserves⟩, f, hsays, rfl⟩⟩
    · simp only [o, houtcome]
      refine ⟨hordinary', Or.inr ⟨?_, hexpected⟩⟩
      rintro ⟨content', -, -, hwrites', -⟩
      obtain rfl := Option.some.inj (hcontent.symm.trans hwrites'.content?_eq)
      exact hwrites hwrites'
  · -- No content with a half comes to the table, which is out of reach if there is one.
    have hs' : Stores (QuestionBackend.Ordinary relational
        (∃ d t, s.questions = .relational d ∧ d.Serves t)) s := by
      unfold Stores at hs ⊢
      cases hquestions : s.questions with
      | memory store => rwa [hquestions] at hs
      | relational d =>
          rw [hquestions] at hs
          exact ⟨hs.1, hs.2.fault, hs.2.table, fun t ht => ⟨d, t, rfl, ht⟩⟩
    obtain ⟨hstate, hresult⟩ := keeps_run serviceName command htexts (fun content hcontent _ hreachable => by
      obtain ⟨d, t, hd, hserves⟩ := hreachable
      by_contra hwhole
      exact hhalf ⟨content, d, t, hcontent, hwhole, hd, hserves⟩) s j hs'
    refine ⟨QuestionBackend.Ordinary.imp hstate fun _ => trivial, Or.inr ⟨?_, hresult⟩⟩
    rintro ⟨content, d, t, hwrites, hwhole, hd, hserves⟩
    exact hhalf ⟨content, d, t, hwrites.content?_eq, hwhole, hd, hserves⟩

end halves

end Command

/-! ### Replies -/

/-- Whether a request is answered for what became of its command: the data of the command, or the one
response for a failure of its kind. What is said of an internal failure is always the same. -/
inductive HttpRequest.Answered (r : HttpRequest) :
    Except Failure Json → Except Failure HttpResponse → Prop
  | ok (data : Json) : Answered r (.ok data) (.ok ((HttpResponse.ok data).forOrigin r))
  | absent (resource id : Text) : Answered r (.error (.notFound resource id))
      (.ok ((HttpResponse.detail 404 "Not found").forOrigin r))
  | malformed (reason : String) (value : Json) : Answered r (.error (.parse reason value))
      (.ok ((HttpResponse.detail 400 ("Parse error: " ++ reason)).forOrigin r))
  | missing (reason : String) (parameters : Json) : Answered r (.error (.missingParameters reason parameters))
      (.ok ((HttpResponse.detail 400 ("Missing parameters: " ++ reason)).forOrigin r))
  | internal (reason : Text) (cause : Option FailureKind) : Answered r (.error (.internal reason cause))
      (.ok ((HttpResponse.detail 500 "Internal server error").forOrigin r))

theorem HttpRequest.not_answered_of_error {r : HttpRequest} {result : Except Failure Json} {f : Failure} :
    ¬r.Answered result (.error f) := by
  intro h
  cases h

/-- What is wrong can be said, if it is said in characters. -/
theorem HttpResponse.sent_detail (status : Nat) (message : String) :
    (detail status message).sent = .ok (detail status message) := by
  have hnumbers : (Json.object [("detail", .text message)]).hasUnbounded = false := rfl
  rcases Json.wire_cases hnumbers with ⟨-, s, hs⟩ | ⟨hhalf, -⟩
  · rw [sent, show (detail status message).body.wire = .ok s from hs]
    rfl
  · exact absurd (by simp [Json.AllTexts, Json.AllEntryTexts]) hhalf

/-! ### Paths of questions -/

def HttpRequest.getQuestion (id : String) : HttpRequest :=
  { method := "GET", path := "/questions/" ++ id }

theorem Route.ofPath_question {id : String} (hne : id ≠ "") (hslash : '/' ∉ id.toList) :
    ofPath ("/questions/" ++ id).toList = some (.question id) := by
  have hsplit : ("/questions/" ++ id).toList.splitOn '/' = [[], "questions".toList, id.toList] := by
    have hpath : ("/questions/" ++ id).toList =
        ['/'].intercalate [[], "questions".toList, id.toList] := by
      simp [String.toList_append, List.intercalate]
    rw [hpath]
    refine List.splitOn_intercalate '/' ?_ (by simp)
    simp [hslash]
  unfold ofPath
  rw [hsplit]
  cases hid : id.toList with
  | nil => exact absurd (String.toList_eq_nil_iff.mp hid) hne
  | cons c rest =>
      simp only [beq_self_eq_true, if_true]
      rw [← hid, String.ofList_toList]

theorem HttpRequest.command?_getQuestion {id : String} (hne : id ≠ "") (hslash : '/' ∉ id.toList) :
    (getQuestion id).command? = some (.find id) := by
  unfold command? getQuestion
  rw [Route.ofPath_question hne hslash]
  rfl

namespace Moment

section result

variable {σ κ γ : Type} [QuestionRepository σ] [Cache κ] [AnswerSource γ] {m : Moment σ κ γ}
  {serviceName : Text} {r : HttpRequest} {command : Command}

def result (serviceName : Text) (command : Command) (m : Moment σ κ γ) : Except Failure Json :=
  ((command.run serviceName).outcome m.service m.journal).result

/-- Whether a command has data with a half to tell. -/
def TellsHalf (serviceName : Text) (command : Command) (m : Moment σ κ γ) : Prop :=
  ∃ data, m.result serviceName command = .ok data ∧ ¬data.AllTexts Text.Whole

theorem reply_of_ok {data : Json} (h : r.command? = some command)
    (hresult : m.result serviceName command = .ok data) :
    m.reply serviceName r = data.wire.map fun _ => (HttpResponse.ok data).forOrigin r := by
  unfold reply result at *
  rw [Board.outcome_reply m.service m.journal serviceName h rfl]
  revert hresult
  obtain ⟨result, state, journal⟩ := (command.run serviceName).outcome m.service m.journal
  rintro rfl
  rfl

/-- A failure of one of these two kinds leaves a request without a response. -/
theorem reply_of_unreported {f : Failure} (h : r.command? = some command)
    (hresult : m.result serviceName command = .error f)
    (hf : (∃ n, f = .integerTooLong n) ∨ f.SaysUnencodable) : m.reply serviceName r = .error f := by
  unfold reply result at *
  rw [Board.outcome_reply m.service m.journal serviceName h rfl]
  revert hresult
  obtain ⟨result, state, journal⟩ := (command.run serviceName).outcome m.service m.journal
  rintro rfl
  obtain ⟨n, rfl⟩ | ⟨position, first, count, rfl⟩ := hf <;> rfl

theorem answered_of_reported {f : Failure} (h : r.command? = some command)
    (hresult : m.result serviceName command = .error f) (hf : f.Reported) :
    r.Answered (m.result serviceName command) (m.reply serviceName r) := by
  unfold reply result at *
  rw [Board.outcome_reply m.service m.journal serviceName h rfl]
  revert hresult
  obtain ⟨result, state, journal⟩ := (command.run serviceName).outcome m.service m.journal
  rintro rfl
  cases f with
  | notFound resource id => exact .absent resource id
  | internal reason cause => exact .internal reason cause
  | parse reason value =>
      obtain ⟨message, rfl⟩ : ∃ message : String, reason = .plain message := by
        simpa [Failure.Reported, Failure.SaysMalformed, Failure.kind] using hf
      change r.Answered _ (Outcome.andThen ⟨(HttpResponse.detail 400 _).sent, state, journal⟩ _).result
      rw [show Failure.message (.parse message value) = .plain ("Parse error: " ++ message) from rfl,
        HttpResponse.sent_detail]
      exact .malformed message value
  | missingParameters reason parameters =>
      obtain ⟨message, rfl⟩ : ∃ message : String, reason = .plain message := by
        simpa [Failure.Reported, Failure.SaysMalformed, Failure.kind] using hf
      change r.Answered _ (Outcome.andThen ⟨(HttpResponse.detail 400 _).sent, state, journal⟩ _).result
      rw [show Failure.message (.missingParameters message parameters) =
        .plain ("Missing parameters: " ++ message) from rfl, HttpResponse.sent_detail]
      exact .missing message parameters
  | _ => simp [Failure.Reported, Failure.SaysMalformed, Failure.kind] at hf

end result

variable {κ γ : Type} [Cache κ] [AnswerSource γ]

/-- The moments of a board on a store of one kind that is empty at first. The board serves requests;
between them its cache and its source change in any way, and so do the connections to its database,
which fail, if they do, with faults of the database or of the system. -/
inductive Served (serviceName : Text) (relational : Bool) : Moment QuestionBackend κ γ → Prop
  | start {m : Moment QuestionBackend κ γ}
      (h : m.service.questions = if relational then .relational {} else .memory {}) :
      Served serviceName relational m
  | serve {m : Moment QuestionBackend κ γ} (r : HttpRequest) (h : Served serviceName relational m) :
      Served serviceName relational (m.after serviceName r)
  | change {m : Moment QuestionBackend κ γ} (cache : κ) (source : γ) (fault : Option Failure)
      (h : Served serviceName relational m)
      (hfault : ∀ f, fault = some f → f.isFault FaultKind.isDatabase ∨ f.isFault FaultKind.isSystem) :
      Served serviceName relational { m with service := { m.service with
        questions := m.service.questions.withFault fault, cache, source } }

variable [DocumentedCache κ] [DocumentedSource γ] {m : Moment QuestionBackend κ γ}
  {serviceName : Text} {relational : Bool} {r : HttpRequest} {command : Command}

theorem ordinary_after (hordinary : Stores (QuestionBackend.Ordinary relational True) m.service) :
    Stores (QuestionBackend.Ordinary relational True) (m.after serviceName r).service := by
  unfold after
  cases hcommand : r.command? with
  | none =>
      rw [Board.outcome_reply_state_of_none m.service m.journal serviceName hcommand]
      exact hordinary
  | some command =>
      obtain ⟨result, j', hreply, -⟩ :=
        Board.exists_outcome_reply m.service m.journal serviceName hcommand rfl
      rw [hreply]
      exact (Command.outcome_run_cases serviceName (Command.texts_of_command? hcommand) hordinary).1

theorem Served.ordinary (h : m.Served serviceName relational) :
    Stores (QuestionBackend.Ordinary relational True) m.service := by
  induction h with
  | start h =>
      unfold Stores
      rw [h]
      exact QuestionBackend.ordinary_empty relational
  | serve r h ih => exact ordinary_after ih
  | change cache source fault h hfault ih =>
      exact QuestionBackend.Ordinary.withFault ih fun f hf => Bool.or_eq_true_iff.mpr (hfault f hf)

theorem Served.exists_result_of_readsTooLong (h : m.Served serviceName relational)
    (hlong : command.ReadsTooLong relational) :
    ∃ n, m.result serviceName command = .error (.integerTooLong n) :=
  Command.exists_result_run_of_readsTooLong serviceName h.ordinary hlong

theorem Served.exists_result_of_storesHalf (h : m.Served serviceName relational)
    (hcommand : r.command? = some command) (hhalf : command.StoresHalf m.service) :
    ∃ f, f.SaysUnencodable ∧ m.result serviceName command = .error f := by
  obtain ⟨-, ⟨-, hsays⟩ | ⟨hnot, -⟩⟩ := Command.outcome_run_cases (j := m.journal) serviceName
    (Command.texts_of_command? hcommand) h.ordinary
  · exact hsays
  · exact absurd hhalf hnot

/-- A board that was filled by requests answers every request for a command, unless the command reads a
number that is too long, writes a content with a half to a table, or has data with a half to tell. The
request then fails with what is said of the number or of the half. -/
theorem answered_iff (hserved : m.Served serviceName relational) (h : r.command? = some command) :
    (r.Answered (m.result serviceName command) (m.reply serviceName r) ↔
        ¬command.ReadsTooLong relational ∧ ¬command.StoresHalf m.service ∧ ¬m.TellsHalf serviceName command) ∧
      (command.ReadsTooLong relational → ∃ n, m.reply serviceName r = .error (.integerTooLong n)) ∧
      (command.StoresHalf m.service ∨ m.TellsHalf serviceName command →
        ∃ f, f.SaysUnencodable ∧ m.reply serviceName r = .error f) := by
  obtain ⟨-, hcases⟩ := Command.outcome_run_cases (j := m.journal) serviceName
    (Command.texts_of_command? h) hserved.ordinary
  have hlong : command.ReadsTooLong relational → ∃ n, m.reply serviceName r = .error (.integerTooLong n) := by
    intro hlong
    obtain ⟨n, hresult⟩ := hserved.exists_result_of_readsTooLong hlong
    exact ⟨n, reply_of_unreported h hresult (Or.inl ⟨n, rfl⟩)⟩
  have hhalf : command.StoresHalf m.service ∨ m.TellsHalf serviceName command →
      ∃ f, f.SaysUnencodable ∧ m.reply serviceName r = .error f := by
    rintro (hstores | ⟨data, hdata, hnot⟩)
    · obtain ⟨f, hsays, hresult⟩ := hserved.exists_result_of_storesHalf h hstores
      exact ⟨f, hsays, reply_of_unreported h hresult (Or.inr hsays)⟩
    · obtain ⟨-, f, -, hresult⟩ | ⟨-, hsettles⟩ := hcases
      · cases hdata.symm.trans hresult
      · rw [show Outcome.result _ = _ from hdata] at hsettles
        obtain ⟨f, hwire, hsays⟩ := ((Json.wire_cases hsettles).resolve_left fun hwhole => hnot hwhole.1).2
        refine ⟨f, hsays, ?_⟩
        rw [reply_of_ok h hdata, hwire]
        rfl
  refine ⟨⟨fun hanswered => ⟨fun hreads => ?_, fun hstores => ?_, fun htells => ?_⟩, ?_⟩, hlong, hhalf⟩
  · obtain ⟨n, hreply⟩ := hlong hreads
    exact HttpRequest.not_answered_of_error (hreply ▸ hanswered)
  · obtain ⟨f, -, hreply⟩ := hhalf (Or.inl hstores)
    exact HttpRequest.not_answered_of_error (hreply ▸ hanswered)
  · obtain ⟨f, -, hreply⟩ := hhalf (Or.inr htells)
    exact HttpRequest.not_answered_of_error (hreply ▸ hanswered)
  · rintro ⟨hreads, hstores, htells⟩
    obtain ⟨-, hsettles⟩ := hcases.resolve_left fun hcase => hstores hcase.1
    cases hresult : m.result serviceName command with
    | ok data =>
        rw [show Outcome.result _ = _ from hresult] at hsettles
        have hwhole : data.AllTexts Text.Whole := by
          by_contra hnot
          exact htells ⟨data, hresult, hnot⟩
        obtain ⟨-, s, hs⟩ := (Json.wire_cases hsettles).resolve_right fun hhalf => hhalf.1 hwhole
        rw [reply_of_ok h hresult, hs]
        exact .ok data
    | error f =>
        rw [show Outcome.result _ = _ from hresult] at hsettles
        rw [← hresult]
        exact answered_of_reported h hresult (hsettles.resolve_right fun hlong => hreads hlong.1)

/-! ### A question that is asked for -/

section Example

open HttpRequest

/-- A board on an empty table. -/
def blank : Moment QuestionBackend ClockedCache EchoSource :=
  ⟨{ questions := .relational {}, cache := { now := .zero false }, source := {} }, .verbose⟩

/-- A content that is half of a character leaves the request without a response. -/
example : (blank.reply "board" (postQuestion "1" "\\ud800")).isOk = false := by decide +kernel

/-- The board when a question was added and no connection can be opened any more. -/
def cutOff : Moment QuestionBackend ClockedCache EchoSource :=
  let m := blank.after "board" (postQuestion "7" "first")
  { m with service := { m.service with
    questions := m.service.questions.withFault (some (.fault .connectionRefused "refused"))
    cache := { now := .zero false }, source := {} } }

/-- A question is asked for while no connection can be opened: the request is answered. -/
theorem answered_cutOff : cutOff.Served "board" true ∧
    (getQuestion "1").command? = some (.find "1") ∧ ¬(Command.find "1").ReadsTooLong true ∧
    ¬(Command.find "1").StoresHalf cutOff.service ∧ ¬cutOff.TellsHalf "board" (.find "1") ∧
    (getQuestion "1").Answered (cutOff.result "board" (.find "1"))
      (cutOff.reply "board" (getQuestion "1")) := by
  have hserved : cutOff.Served "board" true := by
    refine .change _ _ _ (.serve _ (.start rfl)) ?_
    rintro _ ⟨⟩
    exact Or.inr rfl
  have hcommand : (getQuestion "1").command? = some (.find "1") :=
    command?_getQuestion (by decide) (by decide)
  have hreads : ¬(Command.find "1").ReadsTooLong true := by
    rintro ⟨-, -, hlong⟩
    exact absurd hlong (by decide)
  have hstores : ¬(Command.find "1").StoresHalf cutOff.service := by
    rintro ⟨content, -, -, hwrites, -⟩
    cases hwrites
  have htells : ¬cutOff.TellsHalf "board" (.find "1") := by
    rintro ⟨data, hdata, -⟩
    have hfails : (cutOff.result "board" (.find "1")).isOk = false := by decide +kernel
    rw [hdata] at hfails
    cases hfails
  exact ⟨hserved, hcommand, hreads, hstores, htells,
    (answered_iff hserved hcommand).1.mpr ⟨hreads, hstores, htells⟩⟩

/-- The digit 9, once more than digits are read. -/
def nines : String := String.ofList (List.replicate (maxIntegerDigits + 1) '9')

theorem textTooLong_nines : QuestionId.TextTooLong nines := by
  have hsigned : QuestionId.signed (List.replicate (maxIntegerDigits + 1) '9') =
      (false, List.replicate (maxIntegerDigits + 1) '9') := rfl
  unfold QuestionId.TextTooLong nines
  rw [String.toList_ofList, hsigned]
  refine ⟨fun c hc => ?_, ?_⟩
  · rw [List.eq_of_mem_replicate hc]
    decide
  · rw [List.length_replicate]
    exact Nat.lt_succ_self _

theorem nines_ne_empty : nines ≠ "" := by
  intro h
  have hlength := congrArg String.length h
  rw [nines, String.length_ofList, List.length_replicate] at hlength
  cases hlength

theorem slash_not_mem_nines : '/' ∉ nines.toList := by
  intro h
  rw [nines, String.toList_ofList] at h
  exact absurd (List.eq_of_mem_replicate h) (by decide)

/-- A question is asked for by an identifier with too many digits: the request is left without a
response. -/
theorem not_answered_nines : blank.Served "board" true ∧
    (getQuestion nines).command? = some (.find nines) ∧
    (∃ n, blank.reply "board" (getQuestion nines) = .error (.integerTooLong n)) ∧
    ¬(getQuestion nines).Answered (blank.result "board" (.find nines))
      (blank.reply "board" (getQuestion nines)) := by
  have hserved : blank.Served "board" true := .start rfl
  have hcommand := command?_getQuestion nines_ne_empty slash_not_mem_nines
  have hlong : (Command.find nines).ReadsTooLong true := ⟨rfl, textTooLong_nines⟩
  obtain ⟨n, hresult⟩ := hserved.exists_result_of_readsTooLong hlong
  have hreply := reply_of_unreported hcommand hresult (Or.inl ⟨n, rfl⟩)
  refine ⟨hserved, hcommand, ⟨n, hreply⟩, ?_⟩
  rw [hreply]
  exact not_answered_of_error

end Example

end Moment

end QuestionBoard
