import QuestionBoard.Proofs.Action.Keeps
import QuestionBoard.Proofs.Json.Texts
import QuestionBoard.Proofs.Question.Database
import QuestionBoard.Proofs.Question.Store
import QuestionBoard.Proofs.Question.TooLong
import QuestionBoard.Question.Backend

/-!
Stores of the questions that come in requests. All that such a question holds is text, and no operation of
a store changes that. The operations fail with what a request is answered for, whatever becomes of the
connections to a database; only an identifier with too many digits, and a content that cannot be written,
make the relational store fail otherwise.
-/

namespace QuestionBoard

open QuestionBoard.Action

/-! ### Expected failures -/

namespace Failure

/-- Whether a failure is one for which a request has a response. -/
def Reported (f : Failure) : Prop :=
  f.kind = .notFound ∨ f.kind = .internal ∨ f.SaysMalformed ∨
    ∃ (reason : String) (parameters : Json), f = .missingParameters reason parameters

/-- Whether a failure is a reported one or, if a number may be too long, one that says so. -/
def Expected (tooLong : Prop) (f : Failure) : Prop :=
  f.Reported ∨ tooLong ∧ ∃ n, f = .integerTooLong n

variable {f : Failure} {tooLong tooLong' : Prop}

theorem Expected.imp (h : f.Expected tooLong) (himp : tooLong → tooLong') : f.Expected tooLong' :=
  Or.imp_right (And.imp_left himp) h

theorem SaysMalformed.reported (h : f.SaysMalformed) : f.Reported := Or.inr (Or.inr (Or.inl h))

theorem reported_noQuestion (id : QuestionId) : (noQuestion id).Reported := Or.inl rfl

theorem reported_internal (reason : Text) (cause : Option FailureKind) :
    (internal reason cause).Reported := Or.inr (Or.inl rfl)

end Failure

section keeps

variable {σ α : Type} {I : σ → Prop} {Q : α → Prop} {a : Action σ α} {tooLong tooLong' : Prop}

theorem Action.Keeps.expected (h : Keeps I Failure.Reported Q a) :
    Keeps I (Failure.Expected tooLong) Q a :=
  h.imp_failure fun _ => Or.inl

theorem Action.Keeps.expected_imp (h : Keeps I (Failure.Expected tooLong) Q a)
    (himp : tooLong → tooLong') : Keeps I (Failure.Expected tooLong') Q a :=
  h.imp_failure fun _ hf => hf.imp himp

end keeps

section settles

variable {α : Type} {tooLong : Prop} {result : Except Failure α}

/-- What is read from a text is refused as malformed, unless a number in it is too long. -/
theorem settles_of_kind (hlong : tooLong → ∃ n, result = .error (.integerTooLong n))
    (hshort : ¬tooLong → ∀ f, result = .error f → f.SaysMalformed) :
    Settles (Failure.Expected tooLong) (fun _ => True) result := by
  cases result with
  | ok value => exact trivial
  | error f =>
      by_cases h : tooLong
      · obtain ⟨n, hresult⟩ := hlong h
        exact Or.inr ⟨h, n, Except.error.inj hresult⟩
      · exact Or.inl (hshort h f rfl).reported

theorem QuestionId.settles_toKey (id : QuestionId) :
    Settles (Failure.Expected id.TooLong) (fun _ => True) id.toKey :=
  settles_of_kind (fun h => ⟨_, toKey_of_tooLong h⟩) fun h _ => malformed_of_toKey h

theorem Selection.settles_ofParameters {parameters : Json} (h : Texts parameters) :
    Settles (Failure.Expected (Window.TooLong parameters)) (fun _ => True) (ofParameters parameters) :=
  settles_of_kind ofParameters_of_tooLong fun hnot _ => malformed_of_ofParameters h hnot

end settles

/-! ### Questions of texts -/

/-- Whether a question is one that came in a request. -/
def Question.Textual (q : Question) : Prop := ∃ draft : QuestionDraft, q = draft.question q.id

theorem QuestionDraft.textual (draft : QuestionDraft) (id : QuestionId) : (draft.question id).Textual :=
  ⟨draft, rfl⟩

theorem Field.items_text (texts : List Text) (position : Nat) :
    items text position (texts.map .text) = .valid texts := by
  induction texts generalizing position with
  | nil => rfl
  | cons s rest ih =>
      rw [List.map_cons, items, ih]
      rfl

theorem QuestionDraft.tagsReader_tagsData (draft : QuestionDraft) (id : QuestionId) :
    tagsReader (draft.question id).tagsData = .valid draft.tags := by
  unfold Question.tagsData question
  cases draft.tags with
  | none => rfl
  | some tags =>
      change some <$> Field.items Field.text 0 (tags.map .text) = _
      rw [Field.items_text]
      rfl

theorem Question.Textual.response {q : Question} (h : q.Textual) : q.response = .ok q.toData := by
  obtain ⟨draft, hq⟩ := h
  have htags : Field.required "tags" QuestionDraft.tagsReader q.toData = .valid draft.tags := by
    change (QuestionDraft.tagsReader q.tagsData).within _ = _
    rw [hq, draft.tagsReader_tagsData]
    rfl
  rw [Question.response]
  simp only [htags]
  rw [hq]
  rfl

theorem Question.Textual.hasUnbounded_toData {q : Question} (h : q.Textual) :
    q.toData.hasUnbounded = false := by
  obtain ⟨draft, hq⟩ := h
  have htags : q.tagsData.hasUnbounded = false := by
    rw [hq]
    cases htags : draft.tags with
    | none => simp [tagsData, QuestionDraft.question, htags, Json.hasUnbounded]
    | some tags =>
        simp only [tagsData, QuestionDraft.question, htags, Option.map_some, Json.hasUnbounded]
        exact Json.anyUnboundedItem_eq_false (by simp [Json.hasUnbounded])
  rw [toData, Json.hasUnbounded]
  simp only [Json.anyUnboundedEntry, htags]
  rw [hq]
  rfl

namespace QuestionRepository

variable {σ : Type} [QuestionRepository σ]

/-- Whether a store that has an invariant keeps it, gives only questions of texts, and fails as
expected, identifiers that are too long for it and contents that it cannot write apart. -/
structure KeepsTexts (I : σ → Prop) (tooLong : QuestionId → Prop) (writes : Text → Prop) : Prop where
  add (draft : QuestionDraft) (id : QuestionId) : writes draft.content →
    Keeps I Failure.Reported Question.Textual (QuestionRepository.add (draft.question id) : Action σ Question)
  update (draft : QuestionDraft) (id : QuestionId) : writes draft.content →
    Keeps I (Failure.Expected (tooLong id)) Question.Textual
      (QuestionRepository.update (draft.question id) : Action σ Question)
  delete (id : QuestionId) :
    Keeps I (Failure.Expected (tooLong id)) (fun _ => True)
      (QuestionRepository.delete id : Action σ Unit)
  get (id : QuestionId) :
    Keeps I (Failure.Expected (tooLong id)) Question.Textual
      (QuestionRepository.get id : Action σ Question)
  list (selection : Selection) :
    Keeps I Failure.Reported (fun qs => ∀ q ∈ qs, q.Textual)
      (QuestionRepository.list selection : Action σ (List Question))

end QuestionRepository

/-! ### In memory -/

namespace QuestionStore

def Textual (s : QuestionStore) : Prop := ∀ id q, s.questions.get? id = some q → q.Textual

theorem textual_empty : empty.Textual := by
  intro id q h
  cases h

variable {s : QuestionStore} {q : Question}

theorem Textual.put (h : s.Textual) (hq : q.Textual) : (s.put q).Textual := by
  intro id found hfound
  rcases OrderedMap.eq_or_get?_of_get?_insert hfound with ⟨-, rfl⟩ | ⟨-, hold⟩
  · exact hq
  · exact h id found hold

theorem Textual.erase (h : s.Textual) (id : QuestionId) : Textual ⟨s.questions.erase id⟩ := by
  intro other found hfound
  rw [OrderedMap.get?_erase] at hfound
  split at hfound
  · cases hfound
  · exact h other found hfound

theorem Textual.of_mem_values (h : s.Textual) (hq : q ∈ s.questions.values) : q.Textual := by
  obtain ⟨⟨id, found⟩, hentry, rfl⟩ := List.mem_map.mp hq
  exact h id found (OrderedMap.get?_eq_some_iff.mpr hentry)

theorem keepsTexts : QuestionRepository.KeepsTexts Textual (fun _ => False) fun _ => True where
  add draft id _ := by
    intro s j hs
    rw [outcome_add]
    exact ⟨hs.put (draft.textual id), draft.textual id⟩
  update draft id _ := by
    intro s j hs
    rw [outcome_update]
    split
    · exact ⟨hs.put (draft.textual id), draft.textual id⟩
    · exact ⟨hs, Or.inl (Failure.reported_noQuestion id)⟩
  delete id := by
    intro s j hs
    rw [outcome_delete]
    split
    · exact ⟨hs.erase id, trivial⟩
    · exact ⟨hs, Or.inl (Failure.reported_noQuestion id)⟩
  get id := by
    intro s j hs
    rw [outcome_find]
    cases hfound : s.questions.get? id with
    | none => exact ⟨hs, Or.inl (Failure.reported_noQuestion id)⟩
    | some q => exact ⟨hs, hs id q hfound⟩
  list selection := by
    intro s j hs
    rw [outcome_list]
    refine ⟨hs, fun q hq => ?_⟩
    split at hq
    · cases hq
    · exact hs.of_mem_values (List.mem_of_mem_drop (List.mem_of_mem_take hq))

end QuestionStore

/-! ### In a table -/

def QuestionRecord.Textual (r : QuestionRecord) : Prop := ∃ draft : QuestionDraft, r = draft.row r.key

theorem QuestionRecord.Textual.toQuestion {r : QuestionRecord} (h : r.Textual) : r.toQuestion.Textual := by
  obtain ⟨draft, hr⟩ := h
  rw [hr, draft.toQuestion_row]
  exact draft.paired.textual _

namespace QuestionTable

/-- Whether all rows of a table are of texts. -/
def Textual (t : QuestionTable) : Prop := ∀ r ∈ t.records, r.Textual

variable {t : QuestionTable} {key : Int}

theorem Textual.of_find? {r : QuestionRecord} (h : t.Textual) (hr : t.find? key = some r) : r.Textual :=
  h r (List.mem_of_find?_eq_some hr)

theorem Textual.of_slice {r : QuestionRecord} {offset limit : Nat} (h : t.Textual)
    (hr : r ∈ t.slice offset limit) : r.Textual :=
  h r (List.mem_mergeSort.mp (List.mem_of_mem_drop (List.mem_of_mem_take hr)))

theorem Textual.append (h : t.Textual) (key : Int) (draft : QuestionDraft) :
    Textual { records := t.records ++ [draft.row key] } := by
  intro r hr
  rcases List.mem_append.mp hr with hr | hr
  · exact h r hr
  · rw [List.mem_singleton.mp hr]
    exact ⟨draft, rfl⟩

theorem Textual.replace (h : t.Textual) (key : Int) (draft : QuestionDraft) :
    (t.replace (draft.row key)).Textual := by
  intro r hr
  obtain ⟨old, hold, rfl⟩ := List.mem_map.mp hr
  split
  · exact ⟨draft, rfl⟩
  · exact h old hold

theorem Textual.delete (h : t.Textual) (key : Int) : (t.delete key).Textual :=
  fun r hr => h r (List.mem_of_mem_filter hr)

end QuestionTable

namespace QuestionDatabase

/-- Whether all rows are of texts and connections fail only with faults of the database or of the system.
If the table is said to be out of reach, it is. -/
structure Ordinary (reachable : Prop) (d : QuestionDatabase) : Prop where
  fault : ∀ f, d.fault = some f → isTranslated f = true
  table : ∀ t, d.table = some t → t.Textual
  serves : ∀ t, d.Serves t → reachable

variable {reachable : Prop} {α : Type} {Q : α → Prop}

theorem Ordinary.opened {d : QuestionDatabase} (h : d.Ordinary reachable) {t : QuestionTable}
    (hserves : d.Serves t) : (d.opened t).Ordinary reachable := by
  refine ⟨h.fault, ?_, fun _ _ => h.serves t hserves⟩
  rintro _ ⟨⟩
  exact h.table t hserves.table

/-- What a statement does to a table of texts, over any connection. -/
theorem settles_execute {d : QuestionDatabase} (hd : d.Ordinary reachable)
    {statement : QuestionTable → Except Failure (α × QuestionTable)}
    (h : reachable → ∀ t : QuestionTable, t.Textual → ∃ a u, statement t = .ok (a, u) ∧ Q a ∧ u.Textual) :
    Settles (isTranslated · = true) (fun p => reachable ∧ Q p.1 ∧ p.2.Textual) (execute statement d) := by
  unfold execute
  cases hfault : d.fault with
  | some f => exact hd.fault f hfault
  | none =>
      cases htable : d.table with
      | none => exact rfl
      | some t =>
          have hreachable := hd.serves t ⟨hfault, htable⟩
          obtain ⟨a, u, hstatement, ha, hu⟩ := h hreachable t (hd.table t htable)
          change Settles _ _ (statement t)
          rw [hstatement]
          exact ⟨hreachable, ha, hu⟩

theorem keeps_connected (operation : String)
    {statement : QuestionTable → Except Failure (α × QuestionTable)}
    (h : reachable → ∀ t : QuestionTable, t.Textual → ∃ a u, statement t = .ok (a, u) ∧ Q a ∧ u.Textual) :
    Keeps (Ordinary reachable) Failure.Reported Q (connected operation statement) := by
  unfold connected
  refine (keeps_modify fun d hd => ⟨hd.fault, hd.table, fun t ht => hd.serves t ⟨ht.fault, ht.table⟩⟩).bind
    fun _ _ => ?_
  refine keeps_get.bind fun d hd => ?_
  have hsettles := settles_execute hd h
  cases hexecute : execute statement d with
  | ok p =>
      rw [hexecute] at hsettles
      obtain ⟨hreachable, ha, hu⟩ := hsettles
      refine (keeps_set ⟨hd.fault, fun t ht => ?_, fun _ _ => hreachable⟩).bind fun _ _ => keeps_pure ha
      rw [← Option.some.inj ht]
      exact hu
  | error f =>
      rw [hexecute] at hsettles
      have htranslated : isTranslated f = true := hsettles
      simp only [htranslated, if_true]
      exact Keeps.bind (Q := fun _ => True) keeps_log fun _ _ => keeps_throw (Failure.reported_internal _ _)

theorem keepsTexts (reachable : Prop) : QuestionRepository.KeepsTexts (Ordinary reachable) QuestionId.TooLong
    fun content => reachable → content.Whole where
  add draft id hwrites := by
    change Keeps _ _ _ (add _)
    unfold add
    exact keeps_connected "add" fun hreachable t ht =>
      ⟨_, _, QuestionTable.addition_eq_ok (hwrites hreachable) t id, draft.paired.textual _, ht.append _ draft⟩
  update draft id hwrites := by
    change Keeps _ _ _ (update _)
    unfold update
    refine (keeps_ofExcept id.settles_toKey).bind fun key _ => ?_
    refine Keeps.bind (Q := fun stored => ∀ r, stored = some r → r.Textual)
      (keeps_connected "update" fun hreachable t ht => ?_).expected fun stored hstored => ?_
    · have hreplace := QuestionTable.replacement_eq_ok (hwrites hreachable) t id key
      by_cases hfind : (t.find? key).isSome = true
      · rw [if_pos hfind] at hreplace
        refine ⟨_, _, hreplace, ?_, ht.replace key draft⟩
        rintro _ ⟨⟩
        exact draft.paired.textual _
      · rw [if_neg hfind] at hreplace
        exact ⟨_, _, hreplace, by simp, ht⟩
    · cases stored with
      | none => exact keeps_throw (Or.inl (Failure.reported_noQuestion id))
      | some r => exact keeps_pure (hstored r rfl)
  delete id := by
    change Keeps _ _ _ (delete id)
    unfold delete
    refine (keeps_ofExcept id.settles_toKey).bind fun key _ => ?_
    refine Keeps.bind (Q := fun _ => True)
      (keeps_connected "delete" fun _ t ht => ⟨_, _, rfl, trivial, ht.delete key⟩).expected
      fun found _ => ?_
    cases found with
    | false => exact keeps_throw (Or.inl (Failure.reported_noQuestion id))
    | true => exact keeps_pure trivial
  get id := by
    change Keeps _ _ _ (find id)
    unfold find
    refine (keeps_ofExcept id.settles_toKey).bind fun key _ => ?_
    refine Keeps.bind (Q := fun found => ∀ r, found = some r → r.Textual)
      (keeps_connected "get" fun _ t ht => ⟨_, _, rfl, fun r hr => ht.of_find? hr, ht⟩).expected
      fun found hfound => ?_
    cases found with
    | none => exact keeps_throw (Or.inl (Failure.reported_noQuestion id))
    | some r => exact keeps_pure (hfound r rfl).toQuestion
  list selection := by
    change Keeps _ _ _ (list selection)
    unfold list
    by_cases hwindow : (selection.window.isEmpty ||
        decide (QuestionTable.maxInteger.toNat < selection.window.start)) = true
    · simp only [hwindow, if_true]
      exact keeps_pure (by simp)
    · have hstart := QuestionTable.start_le hwindow
      simp only [hwindow]
      refine Keeps.bind (Q := fun rows => ∀ r ∈ rows, r.Textual)
        (keeps_connected "list" fun _ t ht => ?_) fun rows hrows => keeps_pure fun q hq => ?_
      · rw [QuestionTable.page_clamped hstart]
        exact ⟨_, _, rfl, fun r hr => ht.of_slice hr, ht⟩
      obtain ⟨r, hr, rfl⟩ := List.mem_map.mp hq
      exact (hrows r hr).toQuestion

end QuestionDatabase

/-! ### In a store of either kind -/

namespace QuestionBackend

/-- Whether a store is of a kind, relational or in memory, and all that it holds is of texts. If a table is
said to be out of reach, it is. -/
def Ordinary (relational : Bool) (reachable : Prop) : QuestionBackend → Prop
  | .memory store => relational = false ∧ store.Textual
  | .relational database => relational = true ∧ database.Ordinary reachable

/-- The store with another fault of connections, if it needs connections. -/
def withFault (fault : Option Failure) : QuestionBackend → QuestionBackend
  | .memory store => .memory store
  | .relational database => .relational { database with fault }

variable {relational : Bool} {reachable : Prop} {α : Type} {P : Failure → Prop} {Q : α → Prop}

theorem ordinary_empty (relational : Bool) :
    (if relational then .relational {} else .memory {} : QuestionBackend).Ordinary relational True := by
  cases relational with
  | false => exact ⟨rfl, QuestionStore.textual_empty⟩
  | true =>
      refine ⟨rfl, by simp, ?_, fun _ _ => trivial⟩
      rintro _ ⟨⟩ r hr
      cases hr

theorem Ordinary.imp {backend : QuestionBackend} (h : backend.Ordinary relational reachable)
    {reachable' : Prop} (himp : reachable → reachable') : backend.Ordinary relational reachable' := by
  cases backend with
  | memory store => exact h
  | relational database => exact ⟨h.1, h.2.fault, h.2.table, fun t ht => himp (h.2.serves t ht)⟩

theorem Ordinary.withFault {backend : QuestionBackend} (h : backend.Ordinary relational True)
    {fault : Option Failure}
    (hfault : ∀ f, fault = some f → QuestionDatabase.isTranslated f = true) :
    (backend.withFault fault).Ordinary relational True := by
  cases backend with
  | memory store => exact h
  | relational database => exact ⟨h.1, hfault, h.2.table, fun _ _ => trivial⟩

theorem keeps_step {onMemory : Action QuestionStore α} {onDatabase : Action QuestionDatabase α}
    (hmemory : Keeps QuestionStore.Textual P Q onMemory)
    (hdatabase : relational = true → Keeps (QuestionDatabase.Ordinary reachable) P Q onDatabase) :
    Keeps (Ordinary relational reachable) P Q (step onMemory onDatabase) := by
  intro backend j hbackend
  cases backend with
  | memory store =>
      obtain ⟨hstate, hresult⟩ := hmemory store j hbackend.2
      exact ⟨⟨hbackend.1, hstate⟩, hresult⟩
  | relational database =>
      obtain ⟨hstate, hresult⟩ := hdatabase hbackend.1 database j hbackend.2
      exact ⟨⟨hbackend.1, hstate⟩, hresult⟩

theorem keeps_step_of_key {id : QuestionId} {onMemory : Action QuestionStore α}
    {onDatabase : Action QuestionDatabase α}
    (hmemory : Keeps QuestionStore.Textual (Failure.Expected False) Q onMemory)
    (hdatabase : relational = true →
      Keeps (QuestionDatabase.Ordinary reachable) (Failure.Expected id.TooLong) Q onDatabase) :
    Keeps (Ordinary relational reachable) (Failure.Expected (relational = true ∧ id.TooLong)) Q
      (step onMemory onDatabase) :=
  keeps_step (hmemory.expected_imp False.elim) fun hrelational =>
    (hdatabase hrelational).expected_imp fun hlong => ⟨hrelational, hlong⟩

theorem keepsTexts (relational : Bool) (reachable : Prop) :
    QuestionRepository.KeepsTexts (Ordinary relational reachable) (fun id => relational = true ∧ id.TooLong)
      fun content => relational = true → reachable → content.Whole where
  add draft id hwrites := keeps_step (QuestionStore.keepsTexts.add draft id trivial) fun hrelational =>
    (QuestionDatabase.keepsTexts reachable).add draft id (hwrites hrelational)
  update draft id hwrites := keeps_step_of_key (QuestionStore.keepsTexts.update draft id trivial)
    fun hrelational => (QuestionDatabase.keepsTexts reachable).update draft id (hwrites hrelational)
  delete id := keeps_step_of_key (QuestionStore.keepsTexts.delete id) fun _ =>
    (QuestionDatabase.keepsTexts reachable).delete id
  get id := keeps_step_of_key (QuestionStore.keepsTexts.get id) fun _ =>
    (QuestionDatabase.keepsTexts reachable).get id
  list selection := keeps_step (QuestionStore.keepsTexts.list selection) fun _ =>
    (QuestionDatabase.keepsTexts reachable).list selection

end QuestionBackend

end QuestionBoard
