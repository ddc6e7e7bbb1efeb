import QuestionBoard.Proofs.Question.Store
import QuestionBoard.Question.Operation

/-!
What the store in memory is to its users: questions in the order in which their identifiers came, no
two of one identifier. `Listing` says of each operation what it gives and which questions are left,
and `Shows.perform` that the store does the same.
-/

namespace QuestionBoard

open QuestionBoard.Action QuestionStore

/-- Questions in order, no two of one identifier. -/
structure Listing where
  questions : List Question
  distinct : (questions.map Question.id).Nodup

namespace Listing

def empty : Listing := ⟨[], List.nodup_nil⟩

def ids (l : Listing) : List QuestionId := l.questions.map Question.id

/-- Puts a question in the place of the one with its identifier. -/
def replace (q : Question) (l : Listing) : Listing where
  questions := l.questions.map fun r => if r.id = q.id then q else r
  distinct := by
    have hids : (l.questions.map fun r => if r.id = q.id then q else r).map Question.id = l.ids := by
      rw [List.map_map]
      apply List.map_congr_left
      intro r _
      by_cases h : r.id = q.id <;> simp [h]
    rw [hids]
    exact l.distinct

/-- Puts a question with a new identifier at the end. -/
def append (q : Question) (l : Listing) (h : q.id ∉ l.ids) : Listing where
  questions := l.questions ++ [q]
  distinct := by
    rw [List.map_append, List.map_singleton, ← List.concat_eq_append]
    exact l.distinct.concat h

def add (q : Question) (l : Listing) : Listing :=
  if h : q.id ∈ l.ids then l.replace q else l.append q h

def remove (id : QuestionId) (l : Listing) : Listing where
  questions := l.questions.filter fun q => q.id ≠ id
  distinct := l.distinct.sublist (List.filter_sublist.map Question.id)

def ofList (questions : List Question) : Listing := questions.foldl (fun l q => l.add q) empty

def perform (operation : Operation) (l : Listing) : Except Failure Reply × Listing :=
  match operation with
  | .add q => (.ok (.question q), l.add q)
  | .update q => if q.id ∈ l.ids then (.ok (.question q), l.replace q) else (.error (.noQuestion q.id), l)
  | .delete id => if id ∈ l.ids then (.ok .done, l.remove id) else (.error (.noQuestion id), l)
  | .find id =>
    match l.questions.find? fun q => q.id = id with
    | some q => (.ok (.question q), l)
    | none => (.error (.noQuestion id), l)
  | .list { window, .. } => (.ok (.questions ((l.questions.take window.stop).drop window.start)), l)
  | .count => (.ok (.number l.questions.length), l)
  | .clear => (.ok .done, empty)

end Listing

namespace QuestionStore

variable {s : QuestionStore} {l : Listing}

/-- The store holds the questions of a listing, in its order, each under its own identifier. -/
def Shows (s : QuestionStore) (l : Listing) : Prop :=
  s.questions.entries = l.questions.map fun q => (q.id, q)

theorem shows_empty : empty.Shows .empty := rfl

theorem Shows.keys (h : s.Shows l) : s.questions.keys = l.ids := by
  rw [OrderedMap.keys, h, List.map_map]
  rfl

theorem Shows.values (h : s.Shows l) : s.questions.values = l.questions := by
  rw [OrderedMap.values, h, List.map_map]
  exact List.map_id _

theorem Shows.contains_iff (h : s.Shows l) {id : QuestionId} :
    s.questions.contains id = true ↔ id ∈ l.ids := by
  rw [OrderedMap.contains_iff_mem, h.keys]

theorem Shows.get? (h : s.Shows l) (id : QuestionId) :
    s.questions.get? id = l.questions.find? fun q => q.id = id := by
  rw [OrderedMap.get?, h, List.find?_map, Option.map_map]
  exact Option.map_id'

/-- Putting a question under an identifier that is there keeps the place, and a new one stands last. -/
theorem Shows.put (h : s.Shows l) (q : Question) : (s.put q).Shows (l.add q) := by
  change insertEntry q.id q s.questions.entries = (l.add q).questions.map fun q => (q.id, q)
  have hkeys : s.questions.entries.map Prod.fst = l.ids := h.keys
  by_cases hmem : q.id ∈ l.ids
  · rw [insertEntry_of_mem _ _ s.questions.nodup (hkeys ▸ hmem), h, Listing.add, dif_pos hmem,
      Listing.replace, List.map_map, List.map_map]
    apply List.map_congr_left
    intro r _
    by_cases hr : r.id = q.id <;> simp [hr]
  · rw [insertEntry_of_not_mem _ _ (hkeys ▸ hmem), h, Listing.add, dif_neg hmem, Listing.append,
      List.map_append, List.map_singleton]

theorem Shows.erase (h : s.Shows l) (id : QuestionId) :
    Shows ⟨s.questions.erase id⟩ (l.remove id) := by
  change s.questions.entries.filter _ = _
  rw [h, List.filter_map]
  rfl

theorem shows_ofList (questions : List Question) : (ofList questions).Shows (.ofList questions) := by
  have hfold : ∀ (questions : List Question) (s : QuestionStore) (l : Listing), s.Shows l →
      Shows ⟨(questions.map fun q => (q.id, q)).foldl (fun m (key, value) => m.insert key value)
        s.questions⟩ (questions.foldl (fun l q => l.add q) l) := by
    intro questions
    induction questions with
    | nil => exact fun _ _ h => h
    | cons q rest ih => exact fun s l h => ih (s.put q) (l.add q) (h.put q)
  exact hfold questions empty .empty shows_empty

/-- Each operation gives what the listing says, and leaves the questions that it says. -/
theorem Shows.perform (h : s.Shows l) (operation : Operation) (j : Journal) :
    (operation.run.outcome s j).result = (l.perform operation).1 ∧
      (operation.run.outcome s j).state.Shows (l.perform operation).2 := by
  cases operation with
  | add q =>
      rw [Operation.run, outcome_bind, outcome_add]
      exact ⟨rfl, h.put q⟩
  | update q =>
      rw [Operation.run, outcome_bind, outcome_update, Listing.perform]
      by_cases hmem : q.id ∈ l.ids
      · have hput := h.put q
        rw [Listing.add, dif_pos hmem] at hput
        rw [if_pos (h.contains_iff.mpr hmem), if_pos hmem]
        exact ⟨rfl, hput⟩
      · rw [if_neg (mt h.contains_iff.mp hmem), if_neg hmem]
        exact ⟨rfl, h⟩
  | delete id =>
      rw [Operation.run, outcome_bind, outcome_delete, Listing.perform]
      by_cases hmem : id ∈ l.ids
      · rw [if_pos (h.contains_iff.mpr hmem), if_pos hmem]
        exact ⟨rfl, h.erase id⟩
      · rw [if_neg (mt h.contains_iff.mp hmem), if_neg hmem]
        exact ⟨rfl, h⟩
  | find id =>
      rw [Operation.run, outcome_bind, outcome_find, h.get?, Listing.perform]
      cases l.questions.find? fun q => q.id = id <;> exact ⟨rfl, h⟩
  | list selection =>
      rw [Operation.run, outcome_bind, outcome_list, h.values]
      refine ⟨?_, h⟩
      change Except.ok (Reply.questions _) = .ok (.questions _)
      rw [Window.of, Window.limit, List.drop_take]
      by_cases hempty : selection.window.isEmpty = true
      · have hle : selection.window.stop ≤ selection.window.start := by
          simpa [Window.isEmpty] using hempty
        rw [if_pos hempty, Nat.sub_eq_zero_of_le hle, List.take_zero]
      · rw [if_neg hempty]
  | count =>
      refine ⟨?_, h⟩
      change Except.ok (Reply.number s.questions.entries.length) = _
      rw [h, List.length_map]
      rfl
  | clear => exact ⟨rfl, shows_empty⟩

/-- An operation that fails leaves the store as it was. -/
theorem Operation.state_of_error (operation : Operation) (s : QuestionStore) (j : Journal)
    {f : Failure} (hresult : (operation.run.outcome s j).result = .error f) :
    (operation.run.outcome s j).state = s := by
  cases operation with
  | add q =>
      rw [Operation.run, outcome_bind, outcome_add] at hresult
      cases hresult
  | update q =>
      rw [Operation.run, outcome_bind, outcome_update] at hresult ⊢
      split at hresult
      · cases hresult
      · rw [if_neg (by assumption)]
        rfl
  | delete id =>
      rw [Operation.run, outcome_bind, outcome_delete] at hresult ⊢
      split at hresult
      · cases hresult
      · rw [if_neg (by assumption)]
        rfl
  | find id =>
      rw [Operation.run, outcome_bind, outcome_find]
      cases s.questions.get? id <;> rfl
  | list selection => rfl
  | count => rfl
  | clear => cases hresult

end QuestionStore

end QuestionBoard
