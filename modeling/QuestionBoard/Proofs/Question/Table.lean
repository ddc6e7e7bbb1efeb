import Mathlib.Data.List.Nodup
import QuestionBoard.Board.Draft
import QuestionBoard.Proofs.Question.Key
import QuestionBoard.Proofs.Text.Pairs
import QuestionBoard.Proofs.Text.Written
import QuestionBoard.Question.Table

/-!
Rows of the table of questions. `find?` after each change says which rows the table has; the key that
is given next is greater than every key there, so rows that are only added and deleted stand in the
order of their keys.
-/

namespace QuestionBoard

def QuestionDraft.row (key : Int) (draft : QuestionDraft) : QuestionRecord :=
  { key, title := .text draft.title, content := .text draft.content
    tags := draft.tags.map (·.map fun tag => .text tag.paired) }

/-- The draft with every pair of halves in its tags as a character, as a row shows it. -/
def QuestionDraft.paired (draft : QuestionDraft) : QuestionDraft :=
  { draft with tags := draft.tags.map (·.map Text.paired) }

theorem Question.presentTags_text (tags : Option (List Text)) :
    Question.presentTags (tags.map (·.map .text)) = tags.map (·.map .text) := by
  cases tags with
  | none => rfl
  | some tags =>
      refine congrArg some (List.filter_eq_self.mpr ?_)
      intro tag htag
      obtain ⟨t, _, rfl⟩ := List.mem_map.mp htag
      rfl

@[simp] theorem QuestionDraft.question_id (draft : QuestionDraft) (id : QuestionId) :
    (draft.question id).id = id := rfl

theorem QuestionDraft.toQuestion_row (key : Int) (draft : QuestionDraft) :
    (draft.row key).toQuestion = draft.paired.question (.ofKey key) := by
  have htags : (draft.row key).tags = draft.paired.tags.map (·.map .text) := by
    simp [row, QuestionDraft.paired, Option.map_map, Function.comp_def]
  rw [QuestionRecord.toQuestion, htags, Question.presentTags_text]
  rfl

theorem QuestionDraft.paired_eq_self {draft : QuestionDraft}
    (h : ∀ tags, draft.tags = some tags → ∀ tag ∈ tags, tag.Separated) : draft.paired = draft := by
  obtain ⟨id, title, content, _ | tags⟩ := draft
  · rfl
  · have htags : tags.map Text.paired = tags :=
      (List.map_congr_left fun tag htag => Text.paired_eq_self_iff.mpr (h tags rfl tag htag)).trans
        (List.map_id' tags)
    simp [QuestionDraft.paired, htags]

namespace QuestionTable

variable {t : QuestionTable} {key : Int}

theorem mem_keys {r : QuestionRecord} (h : r ∈ t.records) : r.key ∈ t.keys :=
  List.mem_map_of_mem h

/-- The key that is given next is above every other. -/
theorem lt_nextKey (h : key ∈ t.keys) : key < t.nextKey := by
  rw [nextKey]
  cases hmax : t.keys.max? with
  | none =>
      rw [List.max?_eq_none_iff] at hmax
      rw [hmax] at h
      cases h
  | some greatest =>
      have := (List.max?_eq_some_iff.mp hmax).2 key h
      exact Int.lt_add_one_of_le this

theorem nextKey_not_mem : t.nextKey ∉ t.keys := fun h => Int.lt_irrefl _ (lt_nextKey h)

theorem insertRecord_of_not_mem {r : QuestionRecord} (h : r.key ∉ t.keys) :
    t.insertRecord r = .ok { records := t.records ++ [r] } := by
  rw [insertRecord, if_neg]
  simpa using h

/-- A statement carries the columns of a draft whose content is all characters. -/
theorem boundColumns_of_whole {draft : QuestionDraft} (h : draft.content.Whole) :
    boundColumns (.text draft.title) (.text draft.content) =
      .ok (.text draft.title, .text draft.content) := by
  obtain ⟨s, hs⟩ := h
  rw [hs]
  rfl

/-- A statement carries no text with a half in it. -/
theorem exists_bound_of_not_whole (position : Nat) {text : Text} (h : ¬text.Whole) :
    ∃ f, bound position (.text text) = .error f ∧ f.SaysUnencodable := by
  obtain ⟨f, hf, hsays⟩ := Text.exists_written_of_not_whole h
  refine ⟨f, ?_, hsays⟩
  rw [bound, hf]
  rfl

theorem exists_boundColumns_of_not_whole {draft : QuestionDraft} (h : ¬draft.content.Whole) :
    ∃ f, boundColumns (.text draft.title) (.text draft.content) = .error f ∧ f.SaysUnencodable := by
  obtain ⟨f, hf, hsays⟩ := exists_bound_of_not_whole 2 h
  refine ⟨f, ?_, hsays⟩
  rw [boundColumns, hf]
  rfl

theorem record_question (key : Int) (draft : QuestionDraft) (id : QuestionId) :
    record key (.text draft.title, .text draft.content) (draft.question id).tags = .ok (draft.row key) := by
  have htags : (draft.question id).tags.map (·.map Json.paired) = (draft.row key).tags := by
    simp [QuestionDraft.question, QuestionDraft.row, Option.map_map, Function.comp_def, Json.paired]
  rw [record, htags]
  rfl

/-- A question of a draft that a statement carries is added, and given back under the key that is next. -/
theorem addition_eq_ok {draft : QuestionDraft} (h : draft.content.Whole) (t : QuestionTable) (id : QuestionId) :
    (do
      let columns ← boundColumns (draft.question id).title (draft.question id).content
      let r ← record t.nextKey columns (draft.question id).tags
      return (r.toQuestion, ← t.insertRecord r) : Except Failure (Question × QuestionTable)) =
      .ok (draft.paired.question (.ofKey t.nextKey), { records := t.records ++ [draft.row t.nextKey] }) := by
  have hinsert := insertRecord_of_not_mem (t := t) (r := draft.row t.nextKey) nextKey_not_mem
  change (boundColumns (.text draft.title) (.text draft.content) >>= _) = _
  rw [boundColumns_of_whole h]
  change (pure (Json.text draft.title, Json.text draft.content) >>= _) = _
  rw [pure_bind, record_question]
  change (do return ((draft.row t.nextKey).toQuestion, ← t.insertRecord (draft.row t.nextKey))) = _
  rw [hinsert, draft.toQuestion_row]
  rfl

/-- A question of a draft that a statement carries replaces the row with a key, if there is one. -/
theorem replacement_eq_ok {draft : QuestionDraft} (h : draft.content.Whole) (t : QuestionTable)
    (id : QuestionId) (key : Int) :
    (do
      let columns ← boundColumns (draft.question id).title (draft.question id).content
      match t.find? key with
      | none => return (none, t)
      | some _ =>
        let r ← record key columns (draft.question id).tags
        return (some r.toQuestion, t.replace r) : Except Failure (Option Question × QuestionTable)) =
      .ok (if (t.find? key).isSome then (some (draft.paired.question (.ofKey key)), t.replace (draft.row key))
        else (none, t)) := by
  change (boundColumns (.text draft.title) (.text draft.content) >>= _) = _
  rw [boundColumns_of_whole h]
  change (pure (Json.text draft.title, Json.text draft.content) >>= _) = _
  rw [pure_bind]
  cases t.find? key with
  | none => rfl
  | some old =>
      simp only [record_question]
      change Except.ok (some (draft.row key).toQuestion, _) = _
      rw [draft.toQuestion_row]
      rfl

/-! ### Rows by key -/

theorem find?_eq_none_iff : t.find? key = none ↔ key ∉ t.keys := by
  simp [find?, keys]

theorem find?_append (r : QuestionRecord) (h : r.key ∉ t.keys) :
    ({ records := t.records ++ [r] } : QuestionTable).find? key =
      if key = r.key then some r else t.find? key := by
  rw [find?, List.find?_append]
  by_cases hkey : key = r.key
  · subst hkey
    rw [if_pos rfl, ← find?, find?_eq_none_iff.mpr h]
    simp
  · have hne : ¬r.key = key := fun e => hkey e.symm
    rw [if_neg hkey, List.find?_cons_of_neg (by simpa using hne), List.find?_nil, Option.or_none]
    rfl

theorem find?_replace (r : QuestionRecord) :
    (t.replace r).find? key =
      if key = r.key then (t.find? key).map fun _ => r else t.find? key := by
  obtain ⟨records⟩ := t
  simp only [find?, replace]
  induction records with
  | nil => simp
  | cons old rest ih =>
      rw [List.map_cons]
      by_cases hold : old.key = r.key
      · rw [if_pos hold]
        by_cases hkey : key = r.key
        · rw [if_pos hkey, List.find?_cons_of_pos (by simp [hkey]),
            List.find?_cons_of_pos (by simp [hold, hkey])]
          rfl
        · have hne : r.key ≠ key := fun e => hkey e.symm
          rw [if_neg hkey, List.find?_cons_of_neg (by simp [hne]),
            List.find?_cons_of_neg (by simp [hold, hne]), ih, if_neg hkey]
      · rw [if_neg hold]
        by_cases hfound : old.key = key
        · have hkey : key ≠ r.key := fun e => hold (hfound.trans e)
          rw [if_neg hkey, List.find?_cons_of_pos (by simp [hfound]),
            List.find?_cons_of_pos (by simp [hfound])]
        · rw [List.find?_cons_of_neg (by simp [hfound]), List.find?_cons_of_neg (by simp [hfound]), ih]

theorem find?_delete (other : Int) :
    (t.delete other).find? key = if key = other then none else t.find? key := by
  rw [find?, delete, List.find?_filter]
  by_cases hkey : key = other
  · rw [if_pos hkey, List.find?_eq_none]
    intro r _
    simp [hkey]
  · rw [if_neg hkey, find?]
    congr 1
    funext r
    by_cases hr : r.key = key <;> simp [hr, hkey]

theorem delete_of_find?_eq_none (h : t.find? key = none) : t.delete key = t := by
  rw [find?_eq_none_iff] at h
  rw [delete, List.filter_eq_self.mpr]
  intro r hr
  have hne : r.key ≠ key := fun e => h (e ▸ mem_keys hr)
  simpa using hne

theorem keys_replace (r : QuestionRecord) : (t.replace r).keys = t.keys := by
  simp only [keys, replace, List.map_map]
  refine List.map_congr_left fun old _ => ?_
  by_cases hold : old.key = r.key <;> simp [hold]

/-! ### Order -/

/-- Rows that stand in the order of their keys are already sorted. -/
theorem sorted_eq (h : t.records.Pairwise fun r r' => r.key < r'.key) : t.sorted = t.records := by
  refine List.mergeSort_of_pairwise (h.imp ?_)
  intro r r' hlt
  simpa using Int.le_of_lt hlt

/-! ### Slices -/

theorem start_le {w : Window} (h : ¬(w.isEmpty || decide (maxInteger.toNat < w.start)) = true) :
    w.start ≤ maxInteger.toNat := by
  rw [Bool.or_eq_true, decide_eq_true_eq, not_or, Nat.not_lt] at h
  exact h.2

/-- A statement can carry the bounds of a slice once its limit is clamped. -/
theorem page_clamped {offset : Nat} (h : offset ≤ maxInteger.toNat) (limit : Nat) :
    t.page offset (min limit maxInteger.toNat) = .ok (t.slice offset (min limit maxInteger.toNat)) := by
  have hgreatest : (maxInteger.toNat : Int) = maxInteger := Int.toNat_of_nonneg (by decide)
  refine if_pos ⟨?_, ?_⟩ <;> omega

/-- Clamping the bounds of a window to what a statement can carry shows nowhere, as long as the table has
fewer rows. -/
theorem slice_clamped (hlength : t.records.length ≤ maxInteger.toNat) (w : Window) :
    (if w.isEmpty || maxInteger.toNat < w.start then []
      else t.slice w.start (min w.limit maxInteger.toNat)) = w.of t.sorted := by
  have hsorted : t.sorted.length = t.records.length := List.length_mergeSort _
  rw [Window.of]
  by_cases hreaches : (w.isEmpty || decide (maxInteger.toNat < w.start)) = true
  · rw [if_pos hreaches]
    rw [Bool.or_eq_true, decide_eq_true_eq] at hreaches
    rcases hreaches with hempty | hstart
    · have hlimit : w.limit = 0 := Nat.sub_eq_zero_of_le (by simpa [Window.isEmpty] using hempty)
      rw [hlimit, List.take_zero]
    · rw [List.drop_eq_nil_of_le (by omega), List.take_nil]
  · rw [if_neg hreaches, slice, List.take_eq_take_iff, List.length_drop]
    omega

end QuestionTable

end QuestionBoard
