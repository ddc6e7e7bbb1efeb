import QuestionBoard.Proofs.Action.Keeps
import QuestionBoard.Proofs.Question.Simulation

/-!
Faults of the database. A request to the relational store is answered at once or by one statement over
one connection: its `course`. What a connection or a statement fails with leaves the table as it was;
it becomes an internal failure with one error line if it is a fault of the database or of the system,
and goes on unchanged if not, as what is said of a text that cannot be written does. A request that is
answered at once never finds out about the connection.
-/

namespace QuestionBoard

open QuestionBoard.Action

/-! ### Columns without a value -/

namespace Question

/-- Whether a statement can carry the title and the content. -/
def Bindable (q : Question) : Prop := ∃ columns, QuestionTable.boundColumns q.title q.content = .ok columns

/-- The first column that the question leaves without a value. -/
def nullColumn (q : Question) : Option String :=
  match q.title, q.content with
  | .null, _ => some "title"
  | _, .null => some "content"
  | _, _ => none

end Question

namespace QuestionTable

def nullFailure (column : String) : Failure :=
  .fault .databaseIntegrity ("(sqlite3.IntegrityError) NOT NULL constraint failed: questions." ++ column)

theorem required_of_ne_null {column : String} {value : Json} (h : value ≠ .null) :
    required column value = .ok () := by
  cases value with
  | null => exact absurd rfl h
  | _ => rfl

theorem bound_null (position : Nat) : bound position .null = .ok .null := rfl

theorem ne_null_of_bound {position : Nat} {value carried : Json} (h : bound position value = .ok carried)
    (hvalue : value ≠ .null) : carried ≠ .null := by
  rintro rfl
  cases value with
  | null => exact hvalue rfl
  | int n =>
      rw [bound] at h
      split at h <;> cases h
  | text t =>
      rw [bound] at h
      cases hwritten : t.written with
      | error f =>
          rw [hwritten] at h
          cases h
      | ok s =>
          rw [hwritten] at h
          cases h
  | _ => cases h

theorem boundColumns_eq_ok {title content : Json} {columns : Json × Json}
    (h : boundColumns title content = .ok columns) :
    bound 1 title = .ok columns.1 ∧ bound 2 content = .ok columns.2 := by
  rw [boundColumns] at h
  cases htitle : bound 1 title with
  | error f =>
      rw [htitle] at h
      cases h
  | ok carried =>
      cases hcontent : bound 2 content with
      | error f =>
          rw [htitle, hcontent] at h
          cases h
      | ok carried' =>
          rw [htitle, hcontent] at h
          cases h
          exact ⟨rfl, rfl⟩

/-- A row is refused for the first column that its question leaves without a value. -/
theorem record_of_nullColumn {q : Question} {columns : Json × Json} {column : String} (key : Int)
    (hbound : boundColumns q.title q.content = .ok columns) (hcolumn : q.nullColumn = some column) :
    record key columns q.tags = .error (nullFailure column) := by
  obtain ⟨htitle, hcontent⟩ := boundColumns_eq_ok hbound
  rw [Question.nullColumn] at hcolumn
  split at hcolumn
  · next hnull =>
      rw [hnull, bound_null] at htitle
      cases hcolumn
      rw [record, ← Except.ok.inj htitle]
      rfl
  · next hnull hne =>
      rw [hnull, bound_null] at hcontent
      cases hcolumn
      rw [record, required_of_ne_null (ne_null_of_bound htitle hne), ← Except.ok.inj hcontent]
      rfl
  · cases hcolumn

end QuestionTable

/-- Whether a column is text or left without a value. -/
def Json.IsTextOrNull (data : Json) : Prop := data = .null ∨ ∃ t, data = .text t

/-- A statement carries texts, and columns without a value, if every text is all characters. -/
theorem Question.bindable_iff {q : Question} (htitle : q.title.IsTextOrNull)
    (hcontent : q.content.IsTextOrNull) :
    q.Bindable ↔ ∀ t, q.title = .text t ∨ q.content = .text t → t.Whole := by
  have hbound : ∀ (position : Nat) {data : Json}, data.IsTextOrNull →
      ((∃ carried, QuestionTable.bound position data = .ok carried) ↔ ∀ t, data = .text t → t.Whole) := by
    rintro position _ (rfl | ⟨t, rfl⟩)
    · simp [QuestionTable.bound]
    · by_cases hwhole : t.Whole
      · obtain ⟨s, rfl⟩ := hwhole
        exact iff_of_true ⟨.text s, rfl⟩ fun t ht => Json.text.inj ht ▸ Text.whole_plain s
      · obtain ⟨f, hf, -⟩ := QuestionTable.exists_bound_of_not_whole position hwhole
        simp [hf, hwhole]
  constructor
  · rintro ⟨columns, hcolumns⟩ t ht
    obtain ⟨hfirst, hsecond⟩ := QuestionTable.boundColumns_eq_ok hcolumns
    rcases ht with ht | ht
    · exact (hbound _ htitle).mp ⟨_, hfirst⟩ t ht
    · exact (hbound _ hcontent).mp ⟨_, hsecond⟩ t ht
  · intro h
    obtain ⟨first, hfirst⟩ := (hbound 1 htitle).mpr fun t ht => h t (Or.inl ht)
    obtain ⟨second, hsecond⟩ := (hbound 2 hcontent).mpr fun t ht => h t (Or.inr ht)
    refine ⟨(first, second), ?_⟩
    rw [QuestionTable.boundColumns, hfirst, hsecond]
    rfl

namespace QuestionDatabase

/-! ### Connections -/

/-- The database after one more connection, the table being as it was. -/
def tried (d : QuestionDatabase) : QuestionDatabase := { d with connections := d.connections + 1 }

/-- What an operation comes to when a fault is translated: the internal failure, and one error line. -/
def translated {α : Type} (operation : String) (f : Failure) (d : QuestionDatabase) (j : Journal) :
    Outcome QuestionDatabase α where
  result := .error (.internal ("question " ++ operation ++ " failed: " ++ f.message) (some f.kind))
  state := d.tried
  journal := j.write ⟨.error, logger, "Database error in " ++ operation ++ ": " ++ f.message⟩

/-- What an operation comes to when its connection or its statement fails. -/
def failed {α : Type} (operation : String) (f : Failure) (d : QuestionDatabase) (j : Journal) :
    Outcome QuestionDatabase α :=
  if isTranslated f then translated operation f d j else ⟨.error f, d.tried, j⟩

variable {d : QuestionDatabase} {t : QuestionTable} {α : Type}

/-- What a statement over a connection comes to, whatever the connection and the table are. -/
theorem outcome_connected_eq (operation : String)
    (statement : QuestionTable → Except Failure (α × QuestionTable)) (d : QuestionDatabase) (j : Journal) :
    (connected operation statement).outcome d j =
      match execute statement d with
      | .ok (value, t) => ⟨.ok value, d.opened t, j⟩
      | .error f => failed operation f d j := by
  have hexecute : execute statement { d with connections := d.connections + 1 } = execute statement d := rfl
  rw [connected, outcome_bind, outcome_modify, andThen_ok, outcome_bind, outcome_get, andThen_ok,
    hexecute]
  cases execute statement d with
  | ok p => rfl
  | error f =>
      cases hf : isTranslated f with
      | true =>
          simp only [hf, if_true, failed]
          rfl
      | false =>
          simp only [hf, Bool.false_eq_true, if_false, failed]
          rfl

theorem failed_state (operation : String) (f : Failure) (d : QuestionDatabase) (j : Journal) :
    (failed operation f d j : Outcome QuestionDatabase α).state = d.tried := by
  rw [failed]
  split <;> rfl

/-- What a statement comes to over a connection when it finds the result of the whole operation. -/
def answered (operation : String)
    (statement : QuestionTable → Except Failure (Except Failure α × QuestionTable))
    (d : QuestionDatabase) (j : Journal) : Outcome QuestionDatabase α :=
  match execute statement d with
  | .ok (result, t) => ⟨result, d.opened t, j⟩
  | .error f => failed operation f d j

theorem execute_map {β : Type} (change : α × QuestionTable → β × QuestionTable)
    (statement : QuestionTable → Except Failure (α × QuestionTable)) (d : QuestionDatabase) :
    execute (fun t => change <$> statement t) d = change <$> execute statement d := by
  unfold execute
  cases d.fault with
  | some f => rfl
  | none => cases d.table <;> rfl

/-- A step that only looks at what the statement found is part of the statement. -/
theorem outcome_connected_bind {β : Type} (operation : String)
    (statement : QuestionTable → Except Failure (α × QuestionTable)) (next : α → Action QuestionDatabase β)
    (finish : α → Except Failure β) (hnext : ∀ value s j, (next value).outcome s j = ⟨finish value, s, j⟩)
    (d : QuestionDatabase) (j : Journal) :
    (connected operation statement >>= next).outcome d j =
      answered operation (fun t => (fun p => (finish p.1, p.2)) <$> statement t) d j := by
  rw [outcome_bind, outcome_connected_eq, answered, execute_map]
  cases execute statement d with
  | ok p => exact hnext _ _ _
  | error f =>
      change (failed operation f d j).andThen next = failed operation f d j
      rw [failed, failed]
      split <;> rfl

/-! ### Requests -/

/-- A request to the relational store, with any data in it. -/
inductive Request
  | add (q : Question)
  | update (q : Question)
  | delete (id : QuestionId)
  | find (id : QuestionId)
  | list (selection : Selection)

/-- How a request is answered: at once, or by a statement, after which it may still be found that there
is no such question. -/
inductive Course
  | atOnce (result : Except Failure Operation.Reply)
  | byStatement (statement : QuestionTable → Except Failure (Except Failure Operation.Reply × QuestionTable))

namespace Request

/-- The name of the operation in log lines and failures. -/
def operation : Request → String
  | .add _ => "add"
  | .update _ => "update"
  | .delete _ => "delete"
  | .find _ => "get"
  | .list _ => "list"

def run : Request → Action QuestionDatabase Operation.Reply
  | .add q => do return .question (← QuestionRepository.add q)
  | .update q => do return .question (← QuestionRepository.update q)
  | .delete id => do
    QuestionRepository.delete id
    return .done
  | .find id => do return .question (← QuestionRepository.get id)
  | .list selection => do return .questions (← QuestionRepository.list selection)

/-- Whether a request needs no connection: its identifier reads as no key, or its window holds no
position of a table. -/
def NeedsNone : Request → Prop
  | .add _ => False
  | .update q => ∃ f, q.id.toKey = .error f
  | .delete id | .find id => ∃ f, id.toKey = .error f
  | .list selection =>
    selection.window.isEmpty = true ∨ QuestionTable.maxInteger.toNat < selection.window.start

/-- Whether a request puts no value into a column of a row, a new one or one of the table. -/
def LeavesNull (t : QuestionTable) (column : String) : Request → Prop
  | .add q => q.Bindable ∧ q.nullColumn = some column
  | .update q => q.Bindable ∧ q.nullColumn = some column ∧
      ∃ key, q.id.toKey = .ok key ∧ (t.find? key).isSome = true
  | .delete _ | .find _ | .list _ => False

def Writes (q : Question) : Request → Prop
  | .add q' | .update q' => q' = q
  | .delete _ | .find _ | .list _ => False

/-- How a request to the row of an identifier is answered. -/
def ofKey (id : QuestionId)
    (statement : Int → QuestionTable → Except Failure (Except Failure Operation.Reply × QuestionTable)) :
    Course :=
  match id.toKey with
  | .error f => .atOnce (.error f)
  | .ok key => .byStatement (statement key)

/-- How a request is answered. -/
def course : Request → Course
  | .add q => .byStatement fun t => do
    let columns ← QuestionTable.boundColumns q.title q.content
    let r ← QuestionTable.record t.nextKey columns q.tags
    return (.ok (.question r.toQuestion), ← t.insertRecord r)
  | .update q => ofKey q.id fun key t => do
    let columns ← QuestionTable.boundColumns q.title q.content
    match t.find? key with
    | none => return (.error (.noQuestion q.id), t)
    | some _ =>
      let r ← QuestionTable.record key columns q.tags
      return (.ok (.question r.toQuestion), t.replace r)
  | .delete id => ofKey id fun key t =>
    match t.find? key with
    | none => .ok (.error (.noQuestion id), t)
    | some _ => .ok (.ok .done, t.delete key)
  | .find id => ofKey id fun key t =>
    match t.find? key with
    | none => .ok (.error (.noQuestion id), t)
    | some r => .ok (.ok (.question r.toQuestion), t)
  | .list selection =>
    let w := selection.window
    let greatest := QuestionTable.maxInteger.toNat
    if w.isEmpty || greatest < w.start then .atOnce (.ok (.questions []))
    else .byStatement fun t =>
      .ok (.ok (.questions ((t.slice w.start (min w.limit greatest)).map QuestionRecord.toQuestion)), t)

variable (request : Request) (d : QuestionDatabase) (j : Journal)

/-- A request to the row of an identifier, by what its statement finds. -/
theorem outcome_ofKey {id : QuestionId} {α : Type} (operation : String)
    {statement : Int → QuestionTable → Except Failure (α × QuestionTable)}
    {next : α → Action QuestionDatabase Operation.Reply} (finish : α → Except Failure Operation.Reply)
    (hnext : ∀ value s j, (next value).outcome s j = ⟨finish value, s, j⟩)
    {whole : Int → QuestionTable → Except Failure (Except Failure Operation.Reply × QuestionTable)}
    (hwhole : ∀ key t, (fun p => (finish p.1, p.2)) <$> statement key t = whole key t) :
    (Action.ofExcept id.toKey >>= fun key => connected operation (statement key) >>= next).outcome d j =
      match ofKey id whole with
      | .atOnce result => ⟨result, d, j⟩
      | .byStatement statement => answered operation statement d j := by
  rw [outcome_bind, outcome_ofExcept, ofKey]
  cases id.toKey with
  | error f => rfl
  | ok key =>
      have hstatement := outcome_connected_bind operation (statement key) next finish hnext d j
      simp only [hwhole] at hstatement
      exact hstatement

/-- What a request comes to, by the way that it is answered. -/
theorem outcome_run : request.run.outcome d j =
    match request.course with
    | .atOnce result => ⟨result, d, j⟩
    | .byStatement statement => answered request.operation statement d j := by
  cases request with
  | add q =>
      change (QuestionDatabase.add q >>= _).outcome d j = _
      rw [QuestionDatabase.add, outcome_connected_bind "add" _ _ (fun q => .ok (.question q))
        fun _ _ _ => rfl]
      simp only [map_bind, map_pure]
      rfl
  | update q =>
      change (QuestionDatabase.update q >>= _).outcome d j = _
      rw [QuestionDatabase.update, bind_assoc]
      simp only [bind_assoc]
      refine outcome_ofKey d j "update"
        (fun stored => stored.elim (.error (.noQuestion q.id)) fun q => .ok (.question q)) ?_ ?_
      · rintro (_ | stored) s j <;> rfl
      · intro key t
        rw [map_bind]
        cases t.find? key <;> simp [map_pure]
  | delete id =>
      change (QuestionDatabase.delete id >>= _).outcome d j = _
      rw [QuestionDatabase.delete, bind_assoc]
      simp only [bind_assoc]
      refine outcome_ofKey d j "delete"
        (fun found => if found then .ok .done else .error (.noQuestion id)) ?_ ?_
      · rintro (_ | _) s j <;> rfl
      · intro key t
        cases hfind : t.find? key with
        | none =>
          rw [QuestionTable.delete_of_find?_eq_none hfind]
          rfl
        | some r => rfl
  | find id =>
      change (QuestionDatabase.find id >>= _).outcome d j = _
      rw [QuestionDatabase.find, bind_assoc]
      simp only [bind_assoc]
      refine outcome_ofKey d j "get"
        (fun found => found.elim (.error (.noQuestion id)) fun r => .ok (.question r.toQuestion)) ?_ ?_
      · rintro (_ | r) s j <;> rfl
      · intro key t
        cases t.find? key <;> rfl
  | list selection =>
      change (QuestionDatabase.list selection >>= _).outcome d j = _
      rw [QuestionDatabase.list, course]
      by_cases hwindow : (selection.window.isEmpty ||
          QuestionTable.maxInteger.toNat < selection.window.start) = true
      · simp only [hwindow, if_true]
        rfl
      · have hstart := QuestionTable.start_le hwindow
        rw [Bool.not_eq_true] at hwindow
        simp only [hwindow, Bool.false_eq_true, if_false, pure_bind, bind_assoc,
          QuestionTable.page_clamped hstart]
        exact outcome_connected_bind "list" _ _
          (fun rows : List QuestionRecord =>
            (.ok (.questions (rows.map QuestionRecord.toQuestion)) : Except Failure Operation.Reply))
          (fun _ _ _ => rfl) d j

variable {request : Request} {t : QuestionTable}

theorem exists_atOnce (h : request.NeedsNone) : ∃ result, request.course = .atOnce result := by
  cases request with
  | add q => exact h.elim
  | update q | delete id | find id =>
      obtain ⟨f, hkey⟩ := h
      exact ⟨.error f, by simp only [course, ofKey, hkey]⟩
  | list selection => exact ⟨.ok (.questions []), if_pos (by simpa [NeedsNone] using h)⟩

theorem exists_byStatement (h : ¬request.NeedsNone) :
    ∃ statement, request.course = .byStatement statement := by
  have hofKey : ∀ (id : QuestionId) statement, (¬∃ f, id.toKey = .error f) →
      ∃ statement', ofKey id statement = .byStatement statement' := by
    intro id statement hid
    rw [ofKey]
    cases hkey : id.toKey with
    | error f => exact absurd ⟨f, hkey⟩ hid
    | ok key => exact ⟨statement key, rfl⟩
  cases request with
  | add q => exact ⟨_, rfl⟩
  | update q | delete id | find id => exact hofKey _ _ h
  | list selection => exact ⟨_, if_neg (by simpa [NeedsNone] using h)⟩

theorem ofKey_eq_byStatement {id : QuestionId} {whole statement}
    (h : ofKey id whole = .byStatement statement) : ∃ key, id.toKey = .ok key ∧ statement = whole key := by
  rw [ofKey] at h
  cases hkey : id.toKey with
  | error f =>
      rw [hkey] at h
      cases h
  | ok key =>
      rw [hkey] at h
      cases h
      exact ⟨key, rfl, rfl⟩

/-- A statement that finds that there is no such question leaves the table as it was. -/
theorem settles_course {statement} (hcourse : request.course = .byStatement statement)
    (t : QuestionTable) :
    Settles (fun _ => True) (fun p => ∀ f, p.1 = .error f → p.2 = t) (statement t) := by
  have hany : ∀ {α : Type} (result : Except Failure α),
      Settles (fun _ => True) (fun _ => True) result :=
    fun _ => settles_of_error fun _ _ => trivial
  cases request with
  | add q =>
      cases hcourse
      refine (hany _).bind fun columns _ => (hany _).bind fun r _ => (hany _).bind fun u _ => ?_
      exact fun f hf => nomatch hf
  | update q =>
      obtain ⟨key, -, rfl⟩ := ofKey_eq_byStatement hcourse
      refine (hany _).bind fun columns _ => ?_
      cases t.find? key with
      | none => exact fun f _ => rfl
      | some old =>
          refine (hany _).bind fun r _ => ?_
          exact fun f hf => nomatch hf
  | delete id | find id =>
      obtain ⟨key, -, rfl⟩ := ofKey_eq_byStatement hcourse
      cases hfind : t.find? key with
      | none =>
          simp only [hfind]
          exact fun f _ => rfl
      | some old =>
          simp only [hfind]
          exact fun f hf => nomatch hf
  | list selection =>
      rw [course] at hcourse
      split at hcourse
      · cases hcourse
      · cases hcourse
        exact fun f hf => nomatch hf

/-- A request that puts no value into a column of a row runs a statement that is refused. -/
theorem exists_refused {column : String} (h : request.LeavesNull t column) :
    ∃ statement, request.course = .byStatement statement ∧
      statement t = .error (QuestionTable.nullFailure column) := by
  cases request with
  | add q =>
      obtain ⟨⟨columns, hcolumns⟩, hcolumn⟩ := h
      refine ⟨_, rfl, ?_⟩
      rw [hcolumns]
      change (QuestionTable.record t.nextKey columns q.tags >>= _) = _
      rw [QuestionTable.record_of_nullColumn t.nextKey hcolumns hcolumn]
      rfl
  | update q =>
      obtain ⟨⟨columns, hcolumns⟩, hcolumn, key, hkey, hsome⟩ := h
      obtain ⟨old, hfind⟩ := Option.isSome_iff_exists.mp hsome
      refine ⟨_, by simp only [course, ofKey, hkey]; rfl, ?_⟩
      rw [hcolumns]
      simp only [hfind]
      change (QuestionTable.record key columns q.tags >>= _) = _
      rw [QuestionTable.record_of_nullColumn key hcolumns hcolumn]
      rfl
  | delete id | find id | list selection => exact h.elim

/-- A request that writes a question whose columns no statement can carry runs a statement that fails so. -/
theorem exists_unbound {q : Question} {f : Failure} (hneeds : ¬request.NeedsNone) (h : request.Writes q)
    (hbound : QuestionTable.boundColumns q.title q.content = .error f) :
    ∃ statement, request.course = .byStatement statement ∧ statement t = .error f := by
  cases request with
  | add q' =>
      obtain rfl : q' = q := h
      refine ⟨_, rfl, ?_⟩
      rw [hbound]
      rfl
  | update q' =>
      obtain rfl : q' = q := h
      cases hkey : q'.id.toKey with
      | error f' => exact absurd ⟨f', hkey⟩ hneeds
      | ok key =>
          refine ⟨_, by simp only [course, ofKey, hkey]; rfl, ?_⟩
          rw [hbound]
          rfl
  | delete id | find id | list selection => exact h.elim

/-- An update of a row that is not there changes nothing, whatever the columns are. -/
theorem exists_missed {q : Question} {key : Int} (hbindable : q.Bindable) (hkey : q.id.toKey = .ok key)
    (hfind : t.find? key = none) :
    ∃ statement, (update q).course = .byStatement statement ∧
      statement t = .ok (.error (.noQuestion q.id), t) := by
  obtain ⟨columns, hcolumns⟩ := hbindable
  refine ⟨_, by simp only [course, ofKey, hkey]; rfl, ?_⟩
  rw [hcolumns]
  simp only [hfind]
  rfl

end Request

/-! ### Faults -/

theorem opened_eq_tried (h : d.table = some t) : d.opened t = d.tried := by
  rw [opened, tried, ← h]

theorem execute_of_fault {f : Failure} {statement : QuestionTable → Except Failure (α × QuestionTable)}
    (h : d.fault = some f) : execute statement d = .error f := by
  rw [execute, h]
  rfl

theorem execute_of_table {statement : QuestionTable → Except Failure (α × QuestionTable)}
    (hfault : d.fault = none) (htable : d.table = some t) : execute statement d = statement t := by
  rw [execute, hfault, htable]

theorem answered_of_error {f : Failure}
    {statement : QuestionTable → Except Failure (Except Failure α × QuestionTable)}
    (h : execute statement d = .error f) (operation : String) (j : Journal) :
    answered operation statement d j = failed operation f d j := by
  rw [answered, h]

theorem answered_connections (operation : String)
    (statement : QuestionTable → Except Failure (Except Failure α × QuestionTable))
    (d : QuestionDatabase) (j : Journal) :
    (answered operation statement d j).state.connections = d.connections + 1 := by
  cases hexecute : execute statement d with
  | ok p => rw [answered, hexecute]; rfl
  | error f =>
      rw [answered_of_error hexecute, failed_state]
      rfl

/-- A failure leaves the table as it was, if the statement does so where it finds no question. -/
theorem answered_table {statement : QuestionTable → Except Failure (Except Failure α × QuestionTable)}
    (hstatement : ∀ t, Settles (fun _ => True) (fun p => ∀ f, p.1 = .error f → p.2 = t) (statement t))
    {operation : String} {j : Journal} {f : Failure}
    (hresult : (answered operation statement d j).result = .error f) :
    (answered operation statement d j).state.table = d.table := by
  cases hexecute : execute statement d with
  | error g =>
      rw [answered_of_error hexecute, failed_state]
      rfl
  | ok p =>
      obtain ⟨result, u⟩ := p
      rw [answered, hexecute] at hresult ⊢
      cases hfault : d.fault with
      | some g =>
          rw [execute_of_fault hfault] at hexecute
          cases hexecute
      | none =>
          cases htable : d.table with
          | none =>
              rw [execute, hfault, htable] at hexecute
              cases hexecute
          | some t =>
              rw [execute_of_table hfault htable] at hexecute
              have hsettles := hstatement t
              rw [hexecute] at hsettles
              exact congrArg some (hsettles f hresult)

/-- Faults are translated, change nothing, and are seen only when a connection is needed. A request that
fails leaves the table as it was. One that needs no connection opens none, and comes to the same whatever
opening one would raise. Every other opens one: what opening it raises, a column without a value and columns
that no statement can carry are an internal failure with one error line if they are a fault of the database
or of the system, and otherwise go on as they are; an update of a row that is not there finds no question,
if a statement can carry its columns. -/
theorem outcome_of_faults (request : Request) (d : QuestionDatabase) (j : Journal) :
    (∀ f, (request.run.outcome d j).result = .error f →
      (request.run.outcome d j).state.table = d.table) ∧
    (request.NeedsNone → (request.run.outcome d j).state = d ∧
      ∀ fault, request.run.outcome { d with fault } j =
        { request.run.outcome d j with state := { d with fault } }) ∧
    (¬request.NeedsNone →
      (request.run.outcome d j).state.connections = d.connections + 1 ∧
      (∀ f, d.fault = some f →
        (f.isFault FaultKind.isDatabase = true ∨ f.isFault FaultKind.isSystem = true →
          request.run.outcome d j = translated request.operation f d j) ∧
        (¬(f.isFault FaultKind.isDatabase = true ∨ f.isFault FaultKind.isSystem = true) →
          request.run.outcome d j = ⟨.error f, d.tried, j⟩)) ∧
      (∀ t column, d.fault = none → d.table = some t → request.LeavesNull t column →
        request.run.outcome d j = translated request.operation (QuestionTable.nullFailure column) d j) ∧
      (∀ t q f, d.fault = none → d.table = some t → request.Writes q →
        QuestionTable.boundColumns q.title q.content = .error f →
        request.run.outcome d j = failed request.operation f d j) ∧
      (∀ t q key, d.fault = none → d.table = some t → request = .update q → q.Bindable →
        q.id.toKey = .ok key → t.find? key = none →
        request.run.outcome d j = ⟨.error (.noQuestion q.id), d.tried, j⟩)) := by
  refine ⟨fun f hf => ?_, fun hnone => ?_, fun hneeds => ?_⟩
  · cases hcourse : request.course with
    | atOnce result =>
        rw [request.outcome_run, hcourse]
    | byStatement statement =>
        rw [request.outcome_run, hcourse] at hf ⊢
        exact answered_table (Request.settles_course hcourse) hf
  · obtain ⟨result, hcourse⟩ := Request.exists_atOnce hnone
    refine ⟨?_, fun fault => ?_⟩
    · rw [request.outcome_run, hcourse]
    · rw [request.outcome_run, request.outcome_run, hcourse]
  · obtain ⟨statement, hcourse⟩ := Request.exists_byStatement hneeds
    have hrun : request.run.outcome d j = answered request.operation statement d j := by
      rw [request.outcome_run, hcourse]
    refine ⟨?_, fun f hfault => ?_, fun t column hfault htable hnull => ?_,
      fun t q f hfault htable hwrites hbound => ?_, ?_⟩
    · rw [hrun]
      exact answered_connections _ _ _ _
    · have hfailed : request.run.outcome d j = failed request.operation f d j := by
        rw [hrun]
        exact answered_of_error (execute_of_fault hfault) _ _
      rw [hfailed]
      refine ⟨fun hkind => if_pos ?_, fun hkind => if_neg ?_⟩
      · simpa [isTranslated] using hkind
      · simpa [isTranslated] using hkind
    · obtain ⟨statement', hcourse', hrefused⟩ := Request.exists_refused hnull
      rw [request.outcome_run, hcourse']
      exact answered_of_error ((execute_of_table hfault htable).trans hrefused) _ _
    · obtain ⟨statement', hcourse', hunbound⟩ := Request.exists_unbound hneeds hwrites hbound
      rw [request.outcome_run, hcourse']
      exact answered_of_error ((execute_of_table hfault htable).trans hunbound) _ _
    · rintro t q key hfault htable rfl hbindable hkey hfind
      obtain ⟨statement', hcourse', hmissed⟩ := Request.exists_missed hbindable hkey hfind
      rw [Request.outcome_run, hcourse']
      change answered _ statement' d j = _
      rw [answered, execute_of_table hfault htable, hmissed, ← opened_eq_tried htable]

def oneRow : QuestionDatabase :=
  { table := some { records := [⟨1, .text "Title", .text "first", none⟩] } }

/-- A question without a title. -/
def untitled (key : Int) : Question :=
  { id := .ofKey key, title := .null, content := .text "second", tags := none }

/-- Updates without a title of the row that is there and of one that is not, readings over connections
that are refused and that break otherwise, and a deletion at an identifier that is no key. -/
theorem outcome_of_faults_oneRow :
    (Request.update (untitled 1)).run.outcome oneRow .verbose =
        translated "update" (QuestionTable.nullFailure "title") oneRow .verbose ∧
      (Request.update (untitled 2)).run.outcome oneRow .verbose =
        ⟨.error (.noQuestion (.ofKey 2)), oneRow.tried, .verbose⟩ ∧
      (let refused := { oneRow with fault := some (.fault .connectionRefused "refused") }
       (Request.find (.ofKey 1)).run.outcome refused .verbose =
        translated "get" (.fault .connectionRefused "refused") refused .verbose) ∧
      (let broken := { oneRow with fault := some (.fault .runtime "broken") }
       (Request.find (.ofKey 1)).run.outcome broken .verbose =
        ⟨.error (.fault .runtime "broken"), broken.tried, .verbose⟩) ∧
      (Request.delete ⟨"abc", by decide⟩).NeedsNone ∧
      ((Request.delete ⟨"abc", by decide⟩).run.outcome oneRow .verbose).state = oneRow := by
  have hone : (QuestionId.ofKey 1).toKey = .ok 1 := QuestionId.toKey_ofKey (by decide)
  have htwo : (QuestionId.ofKey 2).toKey = .ok 2 := QuestionId.toKey_ofKey (by decide)
  have hneeds : ∀ {id : QuestionId} {key : Int}, id.toKey = .ok key → ¬∃ f, id.toKey = .error f := by
    rintro id key hkey ⟨f, hf⟩
    rw [hkey] at hf
    cases hf
  have hbindable : ∀ key, (untitled key).Bindable := fun key => ⟨_, rfl⟩
  have hnone : (Request.delete ⟨"abc", by decide⟩).NeedsNone := ⟨_, rfl⟩
  obtain ⟨-, -, hupdate⟩ := outcome_of_faults (.update (untitled 1)) oneRow .verbose
  obtain ⟨-, -, hmissing⟩ := outcome_of_faults (.update (untitled 2)) oneRow .verbose
  obtain ⟨-, -, hrefused⟩ := outcome_of_faults (.find (.ofKey 1))
    { oneRow with fault := some (.fault .connectionRefused "refused") } .verbose
  obtain ⟨-, -, hbroken⟩ := outcome_of_faults (.find (.ofKey 1))
    { oneRow with fault := some (.fault .runtime "broken") } .verbose
  obtain ⟨-, hdelete, -⟩ := outcome_of_faults (.delete ⟨"abc", by decide⟩) oneRow .verbose
  refine ⟨?_, ?_, ?_, ?_, hnone, (hdelete hnone).1⟩
  · exact (hupdate (hneeds hone)).2.2.1 _ "title" rfl rfl ⟨hbindable 1, rfl, 1, hone, rfl⟩
  · exact (hmissing (hneeds htwo)).2.2.2.2 _ _ 2 rfl rfl rfl (hbindable 2) htwo rfl
  · exact ((hrefused (hneeds hone)).2.1 _ rfl).1 (Or.inr rfl)
  · exact ((hbroken (hneeds hone)).2.1 _ rfl).2 (by decide)

/-- A question that no row has, with half of a pair as its content. -/
def halved : Question := (tagged (.broken "" loneHalf "") "tag").question (.ofKey 5)

/-- An update of a row that is not there does not find out that there is no question if its content cannot
be written. -/
theorem update_halved_ne_noQuestion : halved.id.toKey = .ok 5 ∧ ({} : QuestionTable).find? 5 = none ∧
    (∃ f, ((Request.update halved).run.outcome {} .verbose).result = .error f ∧ f.SaysUnencodable) ∧
    ((Request.update halved).run.outcome {} .verbose).result ≠ .error (.noQuestion halved.id) := by
  have hkey : halved.id.toKey = .ok 5 := QuestionId.toKey_ofKey (by decide)
  have hwhole : ¬(tagged (.broken "" loneHalf "") "tag").content.Whole := Text.not_whole_broken _ _ _
  obtain ⟨f, hf, hupdate⟩ :=
    exists_outcome_update_of_not_whole (d := {}) (t := {}) .verbose ⟨rfl, rfl⟩ hwhole hkey
  have hresult : ((Request.update halved).run.outcome {} .verbose).result = .error f :=
    result_bind_of_error _ _ (congrArg Outcome.result hupdate)
  refine ⟨hkey, rfl, ⟨f, hresult, hf⟩, fun h => ?_⟩
  obtain ⟨position, first, count, rfl⟩ := hf
  cases hresult.symm.trans h

end QuestionDatabase

end QuestionBoard
