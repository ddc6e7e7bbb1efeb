import Mathlib.Logic.Function.Basic
import QuestionBoard.Proofs.Question.Database
import QuestionBoard.Proofs.Question.Store

/-!
Stores of questions as maps from identifiers to questions. A store may read several identifiers as
the name of one question: `named` gives the one that the question itself carries. Each operation of a
sound store leaves a sound store, and what it changes in the map is said in the laws of
`KeyedRepository`. The store in memory takes identifiers as they are, the relational one reads them
as keys.
-/

namespace QuestionBoard

open QuestionBoard.Action

/-- Stores of drafts, seen as maps from identifiers to questions. -/
class KeyedRepository (σ : Type) [QuestionRepository σ] where
  Sound : σ → Prop
  stored : σ → QuestionId → Option Question
  /-- The identifier of the question that an identifier leads to, if it can lead to any. -/
  named : QuestionId → Option QuestionId
  /-- The identifier that a question gets when it is added. -/
  newId : σ → QuestionId → QuestionId
  /-- What is kept of a draft, if it can be kept. -/
  kept : QuestionDraft → Option QuestionDraft
  id_of_stored {s : σ} {id : QuestionId} {q : Question} (hs : Sound s) (h : stored s id = some q) :
    q.id = id
  exists_outcome_add {s : σ} (hs : Sound s) {draft draft' : QuestionDraft} (hkept : kept draft = some draft')
    (id : QuestionId) (j : Journal) :
    ∃ s' j', outcome (QuestionRepository.add (draft.question id)) s j =
        ⟨.ok (draft'.question (newId s id)), s', j'⟩ ∧ Sound s' ∧
      stored s' = Function.update (stored s) (newId s id) (some (draft'.question (newId s id)))
  exists_outcome_update {s : σ} (hs : Sound s) {draft draft' : QuestionDraft}
    (hkept : kept draft = some draft') {id name : QuestionId} (hname : named id = some name)
    (hstored : (stored s name).isSome) (j : Journal) :
    ∃ s', outcome (QuestionRepository.update (draft.question id)) s j =
        ⟨.ok (draft'.question name), s', j⟩ ∧ Sound s' ∧
      stored s' = Function.update (stored s) name (some (draft'.question name))
  exists_outcome_of_unkept {s : σ} (hs : Sound s) {draft : QuestionDraft} (hkept : kept draft = none)
    (id : QuestionId) (j : Journal) :
    (∃ f s', outcome (QuestionRepository.add (draft.question id)) s j = ⟨.error f, s', j⟩ ∧ Sound s' ∧
      stored s' = stored s) ∧
    ∃ f s', outcome (QuestionRepository.update (draft.question id)) s j = ⟨.error f, s', j⟩ ∧ Sound s' ∧
      stored s' = stored s
  exists_outcome_delete {s : σ} (hs : Sound s) {id name : QuestionId} (hname : named id = some name)
    (hstored : (stored s name).isSome) (j : Journal) :
    ∃ s', outcome (QuestionRepository.delete id) s j = ⟨.ok (), s', j⟩ ∧ Sound s' ∧
      stored s' = Function.update (stored s) name none
  exists_outcome_get {s : σ} (hs : Sound s) {id name : QuestionId} {q : Question}
    (hname : named id = some name) (hstored : stored s name = some q) (j : Journal) :
    ∃ s', outcome (QuestionRepository.get id) s j = ⟨.ok q, s', j⟩ ∧ Sound s' ∧ stored s' = stored s
  exists_outcome_of_missing {s : σ} (hs : Sound s) {id : QuestionId}
    (hmissing : (named id).bind (stored s) = none) (j : Journal) :
    ∃ f s', Sound s' ∧ stored s' = stored s ∧
      (∀ draft, (kept draft).isSome →
        outcome (QuestionRepository.update (draft.question id)) s j = ⟨.error f, s', j⟩) ∧
      outcome (QuestionRepository.delete id) s j = ⟨.error f, s', j⟩ ∧
      outcome (QuestionRepository.get id) s j = ⟨.error f, s', j⟩
  exists_outcome_list {s : σ} (hs : Sound s) (selection : Selection) (j : Journal) :
    ∃ result s', outcome (QuestionRepository.list selection) s j = ⟨result, s', j⟩ ∧ Sound s' ∧
      stored s' = stored s

/-! ### The store in memory -/

namespace QuestionStore

/-- Every question stands under the identifier that it carries. -/
def Sound (s : QuestionStore) : Prop := ∀ id q, s.questions.get? id = some q → q.id = id

theorem sound_empty : Sound empty := by
  intro id q h
  cases h

theorem Sound.put {s : QuestionStore} (h : s.Sound) (q : Question) : (s.put q).Sound := by
  intro id q' hget
  rcases OrderedMap.eq_or_get?_of_get?_insert hget with ⟨rfl, rfl⟩ | ⟨_, hold⟩
  · rfl
  · exact h id q' hold

theorem Sound.erase {s : QuestionStore} (h : s.Sound) (id : QuestionId) :
    Sound ⟨s.questions.erase id⟩ := by
  intro other q hget
  rw [OrderedMap.get?_erase] at hget
  split at hget
  · cases hget
  · exact h other q hget

theorem sound_ofList (questions : List Question) : (ofList questions).Sound := by
  have hfold : ∀ (questions : List Question) (s : QuestionStore), s.Sound →
      Sound ⟨(questions.map fun q => (q.id, q)).foldl (fun m (key, value) => m.insert key value)
        s.questions⟩ := by
    intro questions
    induction questions with
    | nil => exact fun _ h => h
    | cons q rest ih => exact fun s h => ih (s.put q) (h.put q)
  exact hfold questions empty sound_empty

instance : KeyedRepository QuestionStore where
  Sound := Sound
  stored s id := s.questions.get? id
  named := some
  newId _ id := id
  kept := some
  id_of_stored hs h := hs _ _ h
  exists_outcome_add := by
    rintro s hs draft _ ⟨⟩ id j
    refine ⟨_, _, outcome_add s j _, hs.put _, ?_⟩
    funext other
    rw [Function.update_apply]
    exact OrderedMap.get?_insert _ _ _ _
  exists_outcome_update := by
    rintro s hs draft _ ⟨⟩ id name hname hstored j
    obtain rfl := Option.some.inj hname
    have hcontains : s.questions.contains id = true := hstored
    rw [outcome_update, draft.question_id, if_pos hcontains]
    refine ⟨_, rfl, hs.put _, ?_⟩
    funext other
    rw [Function.update_apply]
    exact OrderedMap.get?_insert _ _ _ _
  exists_outcome_of_unkept := by
    rintro s hs draft ⟨⟩
  exists_outcome_delete := by
    intro s hs id name hname hstored j
    obtain rfl := Option.some.inj hname
    have hcontains : s.questions.contains id = true := hstored
    rw [outcome_delete, if_pos hcontains]
    refine ⟨_, rfl, hs.erase id, ?_⟩
    funext other
    rw [Function.update_apply]
    exact OrderedMap.get?_erase _ _ _
  exists_outcome_get := by
    intro s hs id name q hname hstored j
    obtain rfl := Option.some.inj hname
    rw [outcome_find, hstored]
    exact ⟨_, rfl, hs, rfl⟩
  exists_outcome_of_missing := by
    intro s hs id hmissing j
    have hmissing : s.questions.get? id = none := hmissing
    have hcontains : ¬s.questions.contains id = true := by simp [OrderedMap.contains, hmissing]
    refine ⟨.noQuestion id, s, hs, rfl, fun draft _ => ?_, ?_, ?_⟩
    · rw [outcome_update, draft.question_id, if_neg hcontains]
    · rw [outcome_delete, if_neg hcontains]
    · rw [outcome_find, hmissing]
      rfl
  exists_outcome_list hs selection j := ⟨_, _, outcome_list _ j selection, hs, rfl⟩

end QuestionStore

/-! ### The relational store -/

namespace QuestionDatabase

/-- The question that an identifier shows, if a row has its key. -/
def stored (d : QuestionDatabase) (id : QuestionId) : Option Question :=
  d.table.bind fun t =>
    (t.records.find? fun r => QuestionId.ofKey r.key = id).map QuestionRecord.toQuestion

/-- The identifier that shows the key that an identifier reads as. -/
def named (id : QuestionId) : Option QuestionId :=
  match id.toKey with
  | .ok key => some (.ofKey key)
  | .error _ => none

theorem named_eq_some_iff {id name : QuestionId} :
    named id = some name ↔ ∃ key, id.toKey = .ok key ∧ name = .ofKey key := by
  rw [named]
  cases id.toKey with
  | error f => simp
  | ok key => simp [eq_comm]

/-- What a row keeps of a draft: what it shows, if a statement can carry the content. -/
def kept (draft : QuestionDraft) : Option QuestionDraft := draft.content.string?.map fun _ => draft.paired

theorem kept_eq_some_iff {draft draft' : QuestionDraft} :
    kept draft = some draft' ↔ draft.content.Whole ∧ draft' = draft.paired := by
  obtain ⟨id, title, _ | _, tags⟩ := draft <;> simp [kept, Text.string?, eq_comm]

theorem kept_eq_none_iff {draft : QuestionDraft} : kept draft = none ↔ ¬draft.content.Whole := by
  obtain ⟨id, title, _ | _, tags⟩ := draft <;> simp [kept, Text.string?]

variable {d : QuestionDatabase} {t : QuestionTable} {key : Int}

theorem Serves.stored_ofKey (h : d.Serves t) (key : Int) :
    d.stored (.ofKey key) = (t.find? key).map QuestionRecord.toQuestion := by
  rw [stored, h.table, Option.bind_some, QuestionTable.find?]
  congr 2
  funext r
  simp [beq_eq_decide]

theorem Serves.stored_eq_none (h : d.Serves t) {id : QuestionId} (hid : ∀ key, id ≠ .ofKey key) :
    d.stored id = none := by
  rw [stored, h.table, Option.bind_some, Option.map_eq_none_iff, List.find?_eq_none]
  intro r _
  simpa using fun e => hid r.key (Eq.symm e)

/-- Two databases store the same questions but for one if their tables have the same rows but for one. -/
theorem Serves.stored_eq_update (h : d.Serves t) {d' : QuestionDatabase} {t' : QuestionTable}
    (h' : d'.Serves t') (q : Option Question)
    (hrows : ∀ other, (t'.find? other).map QuestionRecord.toQuestion =
      if other = key then q else (t.find? other).map QuestionRecord.toQuestion) :
    d'.stored = Function.update d.stored (.ofKey key) q := by
  funext id
  by_cases hid : ∃ other, id = .ofKey other
  · obtain ⟨other, rfl⟩ := hid
    rw [h'.stored_ofKey, hrows, Function.update_apply, h.stored_ofKey]
    simp only [QuestionId.ofKey_inj]
  · have hid : ∀ other, id ≠ .ofKey other := fun other e => hid ⟨other, e⟩
    rw [h'.stored_eq_none hid, Function.update_of_ne (hid key), h.stored_eq_none hid]

theorem Serves.stored_opened (h : d.Serves t) : (d.opened t).stored = d.stored := by
  funext id
  rw [stored, stored, h.table]
  rfl

theorem Serves.isSome_find? (h : d.Serves t) (hstored : (d.stored (.ofKey key)).isSome) :
    (t.find? key).isSome = true := by
  rw [h.stored_ofKey, Option.isSome_map] at hstored
  exact hstored

instance : KeyedRepository QuestionDatabase where
  Sound d := ∃ t, d.Serves t
  stored := stored
  named := named
  newId d _ := .ofKey (d.table.getD {}).nextKey
  kept := kept
  id_of_stored := by
    rintro d id q ⟨t, h⟩ hstored
    rw [stored, h.table, Option.bind_some, Option.map_eq_some_iff] at hstored
    obtain ⟨r, hr, rfl⟩ := hstored
    have hkey := List.find?_some hr
    exact of_decide_eq_true hkey
  exists_outcome_add := by
    rintro d ⟨t, h⟩ draft _ hkept id j
    obtain ⟨hwhole, rfl⟩ := kept_eq_some_iff.mp hkept
    rw [h.table, Option.getD_some]
    refine ⟨_, _, outcome_add j h hwhole id, ⟨_, h.opened _⟩,
      h.stored_eq_update (h.opened _) _ fun other => ?_⟩
    have hkey : (draft.row t.nextKey).key = t.nextKey := rfl
    rw [QuestionTable.find?_append _ QuestionTable.nextKey_not_mem, hkey, ← draft.toQuestion_row]
    split <;> rfl
  exists_outcome_update := by
    rintro d ⟨t, h⟩ draft _ hkept id name hname hstored j
    obtain ⟨hwhole, rfl⟩ := kept_eq_some_iff.mp hkept
    obtain ⟨key, hkey, rfl⟩ := named_eq_some_iff.mp hname
    rw [outcome_update j h hwhole hkey, if_pos (h.isSome_find? hstored)]
    refine ⟨_, rfl, ⟨_, h.opened _⟩, h.stored_eq_update (h.opened _) _ fun other => ?_⟩
    have hrow : (draft.row key).key = key := rfl
    rw [QuestionTable.find?_replace, hrow, ← draft.toQuestion_row]
    by_cases hother : other = key
    · obtain ⟨r, hr⟩ := Option.isSome_iff_exists.mp (h.isSome_find? hstored)
      rw [if_pos hother, if_pos hother, hother, hr]
      rfl
    · rw [if_neg hother, if_neg hother]
  exists_outcome_of_unkept := by
    rintro d ⟨t, h⟩ draft hkept id j
    have hwhole := kept_eq_none_iff.mp hkept
    constructor
    · obtain ⟨f, -, hadd⟩ := exists_outcome_add_of_not_whole j h hwhole id
      exact ⟨f, _, hadd, ⟨t, h.opened t⟩, h.stored_opened⟩
    · cases hkey : id.toKey with
      | error f => exact ⟨f, _, outcome_update_of_error j hkey _ (draft.question_id id), ⟨t, h⟩, rfl⟩
      | ok key =>
          obtain ⟨f, -, hupdate⟩ := exists_outcome_update_of_not_whole j h hwhole hkey
          exact ⟨f, _, hupdate, ⟨t, h.opened t⟩, h.stored_opened⟩
  exists_outcome_delete := by
    rintro d ⟨t, h⟩ id name hname hstored j
    obtain ⟨key, hkey, rfl⟩ := named_eq_some_iff.mp hname
    rw [outcome_delete j h hkey, if_pos (h.isSome_find? hstored)]
    refine ⟨_, rfl, ⟨_, h.opened _⟩, h.stored_eq_update (h.opened _) _ fun other => ?_⟩
    rw [QuestionTable.find?_delete]
    split <;> rfl
  exists_outcome_get := by
    rintro d ⟨t, h⟩ id name q hname hstored j
    obtain ⟨key, hkey, rfl⟩ := named_eq_some_iff.mp hname
    rw [h.stored_ofKey, Option.map_eq_some_iff] at hstored
    obtain ⟨r, hr, rfl⟩ := hstored
    rw [outcome_find j h hkey, hr]
    exact ⟨_, rfl, ⟨_, h.opened _⟩, h.stored_opened⟩
  exists_outcome_of_missing := by
    rintro d ⟨t, h⟩ id hmissing j
    cases hkey : id.toKey with
    | error f =>
        exact ⟨f, d, ⟨t, h⟩, rfl, fun draft _ => outcome_update_of_error j hkey _ (draft.question_id id),
          outcome_delete_of_error j hkey, outcome_find_of_error j hkey⟩
    | ok key =>
        have hname : named id = some (.ofKey key) := named_eq_some_iff.mpr ⟨key, hkey, rfl⟩
        rw [hname, Option.bind_some, h.stored_ofKey, Option.map_eq_none_iff] at hmissing
        have hnone : ¬(t.find? key).isSome = true := by simp [hmissing]
        refine ⟨.noQuestion id, d.opened t, ⟨t, h.opened t⟩, h.stored_opened,
          fun draft hkept => ?_, ?_, ?_⟩
        · obtain ⟨draft', hkept⟩ := Option.isSome_iff_exists.mp hkept
          rw [outcome_update j h (kept_eq_some_iff.mp hkept).1 hkey, if_neg hnone]
        · rw [outcome_delete j h hkey, if_neg hnone, QuestionTable.delete_of_find?_eq_none hmissing]
        · rw [outcome_find j h hkey, hmissing]
          rfl
  exists_outcome_list := by
    rintro d ⟨t, h⟩ selection j
    rw [outcome_list j h]
    split
    · exact ⟨_, _, rfl, ⟨t, h⟩, rfl⟩
    · exact ⟨_, _, rfl, ⟨t, h.opened t⟩, h.stored_opened⟩

end QuestionDatabase

/-! ### Questions that are not stored -/

/-- Keyed stores that say of a question that it is not stored. -/
class FindingRepository (σ : Type) [QuestionRepository σ] extends KeyedRepository σ where
  result_get_of_missing {s : σ} (hs : Sound s) {id name : QuestionId} (hname : named id = some name)
    (hmissing : stored s name = none) (j : Journal) :
    (outcome (QuestionRepository.get id) s j).result = .error (.noQuestion id)

instance : FindingRepository QuestionStore where
  result_get_of_missing := by
    intro s hs id name hname hmissing j
    obtain rfl := Option.some.inj hname
    have hmissing : s.questions.get? id = none := hmissing
    rw [QuestionStore.outcome_find, hmissing]
    rfl

instance : FindingRepository QuestionDatabase where
  result_get_of_missing := by
    rintro d ⟨t, h⟩ id name hname hmissing j
    obtain ⟨key, hkey, rfl⟩ := QuestionDatabase.named_eq_some_iff.mp hname
    have hmissing : d.stored (.ofKey key) = none := hmissing
    rw [h.stored_ofKey, Option.map_eq_none_iff] at hmissing
    rw [QuestionDatabase.outcome_find j h hkey, hmissing]
    rfl

end QuestionBoard
