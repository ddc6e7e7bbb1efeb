import QuestionBoard.Proofs.Action
import QuestionBoard.Proofs.Question.Table
import QuestionBoard.Question.Database

/-!
What the operations of the relational store come to while its database can be reached. An identifier
that reads as no key fails before a connection is opened; the others open one, and the table after
the operation is the one after its statement.
-/

namespace QuestionBoard

namespace QuestionDatabase

open QuestionBoard.Action

structure Serves (d : QuestionDatabase) (t : QuestionTable) : Prop where
  fault : d.fault = none
  table : d.table = some t

def opened (t : QuestionTable) (d : QuestionDatabase) : QuestionDatabase :=
  { d with table := some t, connections := d.connections + 1 }

variable {d : QuestionDatabase} {t : QuestionTable}

theorem Serves.opened (h : d.Serves t) (t' : QuestionTable) : (d.opened t').Serves t' :=
  ⟨h.fault, rfl⟩

variable (j : Journal)

theorem outcome_connected {α : Type} (h : d.Serves t) (operation : String)
    {statement : QuestionTable → Except Failure (α × QuestionTable)} {a : α} {u : QuestionTable}
    (hstatement : statement t = .ok (a, u)) :
    (connected operation statement).outcome d j = ⟨.ok a, d.opened u, j⟩ := by
  have hexecute : execute statement { d with connections := d.connections + 1 } = .ok (a, u) := by
    rw [execute]
    simp only [h.fault, h.table]
    exact hstatement
  rw [connected, outcome_bind, outcome_modify, andThen_ok, outcome_bind, outcome_get, andThen_ok,
    hexecute]
  rfl

/-- A statement with a text that cannot be written fails as the writing does, and changes nothing. -/
theorem outcome_connected_of_unencodable {α : Type} (h : d.Serves t) (operation : String)
    {statement : QuestionTable → Except Failure (α × QuestionTable)} {f : Failure}
    (hstatement : statement t = .error f) (hf : f.SaysUnencodable) :
    (connected operation statement).outcome d j = ⟨.error f, d.opened t, j⟩ := by
  have hexecute : execute statement { d with connections := d.connections + 1 } = .error f := by
    rw [execute]
    simp only [h.fault, h.table]
    exact hstatement
  obtain ⟨position, first, count, rfl⟩ := hf
  rw [connected, outcome_bind, outcome_modify, andThen_ok, outcome_bind, outcome_get, andThen_ok,
    hexecute, opened, ← h.table]
  rfl

theorem outcome_add (h : d.Serves t) {draft : QuestionDraft} (hwhole : draft.content.Whole) (id : QuestionId) :
    outcome (QuestionRepository.add (draft.question id)) d j =
      ⟨.ok (draft.paired.question (.ofKey t.nextKey)),
        d.opened { records := t.records ++ [draft.row t.nextKey] }, j⟩ := by
  change (add _).outcome _ _ = _
  rw [add]
  exact outcome_connected j h "add" (QuestionTable.addition_eq_ok hwhole t id)

theorem exists_outcome_add_of_not_whole (h : d.Serves t) {draft : QuestionDraft}
    (hwhole : ¬draft.content.Whole) (id : QuestionId) : ∃ f, f.SaysUnencodable ∧
      outcome (QuestionRepository.add (draft.question id)) d j = ⟨.error f, d.opened t, j⟩ := by
  obtain ⟨f, hbound, hf⟩ := QuestionTable.exists_boundColumns_of_not_whole hwhole
  refine ⟨f, hf, ?_⟩
  change (add _).outcome _ _ = _
  rw [add]
  refine outcome_connected_of_unencodable j h "add" ?_ hf
  change (QuestionTable.boundColumns (.text draft.title) (.text draft.content) >>= _) = _
  rw [hbound]
  rfl

/-! ### Identifiers that read as no key -/

variable {id : QuestionId} {f : Failure}

theorem outcome_update_of_error (hkey : id.toKey = .error f) (q : Question) (hid : q.id = id) :
    outcome (QuestionRepository.update q) d j = ⟨.error f, d, j⟩ := by
  change (update _).outcome _ _ = _
  rw [update, outcome_bind, outcome_ofExcept, hid, hkey]
  rfl

theorem outcome_delete_of_error (hkey : id.toKey = .error f) :
    outcome (QuestionRepository.delete id) d j = ⟨.error f, d, j⟩ := by
  change (delete _).outcome _ _ = _
  rw [delete, outcome_bind, outcome_ofExcept, hkey]
  rfl

theorem outcome_find_of_error (hkey : id.toKey = .error f) :
    outcome (QuestionRepository.get id) d j = ⟨.error f, d, j⟩ := by
  change (find _).outcome _ _ = _
  rw [find, outcome_bind, outcome_ofExcept, hkey]
  rfl

/-! ### Identifiers of keys -/

variable {key : Int}

theorem outcome_update (h : d.Serves t) {draft : QuestionDraft} (hwhole : draft.content.Whole)
    (hkey : id.toKey = .ok key) :
    outcome (QuestionRepository.update (draft.question id)) d j =
      if (t.find? key).isSome then
        ⟨.ok (draft.paired.question (.ofKey key)), d.opened (t.replace (draft.row key)), j⟩
      else ⟨.error (.noQuestion id), d.opened t, j⟩ := by
  have hid : (draft.question id).id = id := rfl
  have hreplace := QuestionTable.replacement_eq_ok hwhole t id key
  change (update _).outcome _ _ = _
  rw [update, outcome_bind, outcome_ofExcept, hid, hkey, andThen_ok, outcome_bind]
  by_cases hfind : (t.find? key).isSome = true
  · rw [if_pos hfind] at hreplace ⊢
    rw [outcome_connected j h "update" hreplace]
    rfl
  · rw [if_neg hfind] at hreplace ⊢
    rw [outcome_connected j h "update" hreplace]
    rfl

theorem exists_outcome_update_of_not_whole (h : d.Serves t) {draft : QuestionDraft}
    (hwhole : ¬draft.content.Whole) (hkey : id.toKey = .ok key) : ∃ f, f.SaysUnencodable ∧
      outcome (QuestionRepository.update (draft.question id)) d j = ⟨.error f, d.opened t, j⟩ := by
  obtain ⟨f, hbound, hf⟩ := QuestionTable.exists_boundColumns_of_not_whole hwhole
  have hid : (draft.question id).id = id := rfl
  refine ⟨f, hf, ?_⟩
  change (update _).outcome _ _ = _
  rw [update, outcome_bind, outcome_ofExcept, hid, hkey, andThen_ok, outcome_bind,
    outcome_connected_of_unencodable j h "update" (f := f) ?_ hf]
  · rfl
  · change (QuestionTable.boundColumns (.text draft.title) (.text draft.content) >>= _) = _
    rw [hbound]
    rfl

theorem outcome_delete (h : d.Serves t) (hkey : id.toKey = .ok key) :
    outcome (QuestionRepository.delete id) d j =
      if (t.find? key).isSome then ⟨.ok (), d.opened (t.delete key), j⟩
      else ⟨.error (.noQuestion id), d.opened (t.delete key), j⟩ := by
  change (delete _).outcome _ _ = _
  rw [delete, outcome_bind, outcome_ofExcept, hkey, andThen_ok, outcome_bind,
    outcome_connected j h "delete" rfl, andThen_ok]
  cases hfind : t.find? key <;> rfl

theorem outcome_find (h : d.Serves t) (hkey : id.toKey = .ok key) :
    outcome (QuestionRepository.get id) d j =
      ⟨(t.find? key).elim (.error (.noQuestion id)) fun r => .ok r.toQuestion, d.opened t, j⟩ := by
  change (find _).outcome _ _ = _
  rw [find, outcome_bind, outcome_ofExcept, hkey, andThen_ok, outcome_bind,
    outcome_connected j h "get" rfl, andThen_ok]
  cases hfind : t.find? key <;> rfl

/-- A window past the greatest position is answered without a connection, the others with one. -/
theorem outcome_list (h : d.Serves t) (selection : Selection) :
    outcome (QuestionRepository.list selection) d j =
      if selection.window.isEmpty || QuestionTable.maxInteger.toNat < selection.window.start then
        ⟨.ok [], d, j⟩
      else
        ⟨.ok ((t.slice selection.window.start
          (min selection.window.limit QuestionTable.maxInteger.toNat)).map QuestionRecord.toQuestion),
          d.opened t, j⟩ := by
  change (list _).outcome _ _ = _
  rw [list]
  by_cases hwindow : (selection.window.isEmpty ||
      QuestionTable.maxInteger.toNat < selection.window.start) = true
  · rw [if_pos hwindow]
    simp only [hwindow, if_true]
    rfl
  · have hstart := QuestionTable.start_le hwindow
    rw [if_neg hwindow]
    simp only [hwindow]
    rw [if_neg (by simp), outcome_bind, outcome_connected j h "list" (a := t.slice _ _) (u := t)]
    · rfl
    · rw [QuestionTable.page_clamped hstart]
      rfl

end QuestionDatabase

end QuestionBoard
