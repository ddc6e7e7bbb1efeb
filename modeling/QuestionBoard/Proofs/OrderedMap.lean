import Mathlib.Data.List.Nodup
import Mathlib.Data.List.Perm.Subperm
import QuestionBoard.Collection.OrderedMap

/-!
Ordered maps as maps and as lists. `get?` after each operation says what the map holds, the entries
after `insert` say in which order: a key that is there keeps its place, a new one stands at the end.
-/

namespace QuestionBoard

section insertEntry

variable {κ α : Type} [DecidableEq κ] (key : κ) (value : α)

theorem find?_insertEntry (other : κ) (entries : List (κ × α)) :
    (insertEntry key value entries).find? (fun entry => entry.1 = other) =
      if other = key then some (key, value) else entries.find? fun entry => entry.1 = other := by
  induction entries with
  | nil => by_cases h : other = key <;> simp [insertEntry, h, eq_comm]
  | cons entry rest ih =>
      rw [insertEntry]
      by_cases hentry : entry.1 = key
      · rw [if_pos hentry]
        by_cases h : other = key
        · simp [h]
        · have hkey : ¬key = other := fun e => h e.symm
          simp [h, hkey, hentry]
      · rw [if_neg hentry, List.find?_cons, List.find?_cons, ih]
        by_cases hother : entry.1 = other
        · have h : ¬other = key := fun e => hentry (hother.trans e)
          simp [hother, h]
        · simp [hother]

theorem mem_insertEntry {entry : κ × α} {entries : List (κ × α)}
    (h : entry ∈ insertEntry key value entries) : entry = (key, value) ∨ entry ∈ entries := by
  induction entries with
  | nil => exact Or.inl (List.mem_singleton.mp h)
  | cons first rest ih =>
      rw [insertEntry] at h
      split at h
      · exact (List.mem_cons.mp h).imp_right (List.mem_cons_of_mem first)
      · rcases List.mem_cons.mp h with rfl | h
        · exact Or.inr List.mem_cons_self
        · exact (ih h).imp_right (List.mem_cons_of_mem first)

theorem mem_foldl_insertEntry {entry : κ × α} {entries found : List (κ × α)}
    (h : entry ∈ entries.foldl (fun found entry => insertEntry entry.1 entry.2 found) found) :
    entry ∈ entries ∨ entry ∈ found := by
  induction entries generalizing found with
  | nil => exact Or.inr h
  | cons first rest ih =>
      rcases ih h with hrest | hfound
      · exact Or.inl (List.mem_cons_of_mem first hrest)
      · rcases mem_insertEntry _ _ hfound with rfl | hold
        · exact Or.inl List.mem_cons_self
        · exact Or.inr hold

theorem insertEntry_of_not_mem {entries : List (κ × α)} (h : key ∉ entries.map Prod.fst) :
    insertEntry key value entries = entries ++ [(key, value)] := by
  induction entries with
  | nil => rfl
  | cons entry rest ih =>
      simp only [List.map_cons, List.mem_cons, not_or] at h
      rw [insertEntry, if_neg (Ne.symm h.1), ih h.2, List.cons_append]

theorem insertEntry_of_mem {entries : List (κ × α)} (hnodup : (entries.map Prod.fst).Nodup)
    (h : key ∈ entries.map Prod.fst) :
    insertEntry key value entries =
      entries.map fun entry => if entry.1 = key then (key, value) else entry := by
  induction entries with
  | nil => simp at h
  | cons entry rest ih =>
      simp only [List.map_cons, List.nodup_cons] at hnodup
      rw [insertEntry, List.map_cons]
      by_cases hentry : entry.1 = key
      · rw [if_pos hentry, if_pos hentry]
        congr 1
        have hrest : ∀ other ∈ rest, (if other.1 = key then (key, value) else other) = other := by
          intro other hother
          refine if_neg fun e => hnodup.1 ?_
          rw [hentry, ← e]
          exact List.mem_map_of_mem hother
        rw [List.map_congr_left hrest, List.map_id']
      · have hmem : key ∈ rest.map Prod.fst := by
          rcases List.mem_cons.mp h with heq | hmem
          · exact absurd heq.symm hentry
          · exact hmem
        rw [if_neg hentry, if_neg hentry, ih hnodup.2 hmem]

/-- How a count of entries changes when the value at a key is replaced. -/
theorem countP_insertEntry (p : κ × α → Bool) {old : α} {entries : List (κ × α)}
    (h : entries.find? (fun entry => entry.1 = key) = some (key, old)) :
    (insertEntry key value entries).countP p + (if p (key, old) then 1 else 0) =
      entries.countP p + (if p (key, value) then 1 else 0) := by
  induction entries with
  | nil => simp at h
  | cons entry rest ih =>
      rw [insertEntry]
      by_cases hentry : entry.1 = key
      · have hold : entry = (key, old) := by simpa [hentry] using h
        subst hold
        simp only [if_true, List.countP_cons]
        omega
      · have hrest : rest.find? (fun entry => entry.1 = key) = some (key, old) := by
          simpa [hentry] using h
        have := ih hrest
        rw [if_neg hentry, List.countP_cons, List.countP_cons]
        omega

theorem nodup_keys_foldl_insertEntry {ι : Type} (key : ι → κ) (value : ι → α) (items : List ι)
    {entries : List (κ × α)} (h : (entries.map Prod.fst).Nodup) :
    ((items.foldl (fun found item => insertEntry (key item) (value item) found) entries).map
      Prod.fst).Nodup := by
  induction items generalizing entries with
  | nil => exact h
  | cons item rest ih => exact ih (nodup_keys_insertEntry _ _ h)

/-- Entries with keys of their own are put at the end. -/
theorem foldl_insertEntry_of_nodup (entries : List (κ × α)) {found : List (κ × α)}
    (h : ((found ++ entries).map Prod.fst).Nodup) :
    entries.foldl (fun found entry => insertEntry entry.1 entry.2 found) found = found ++ entries := by
  induction entries generalizing found with
  | nil => exact (List.append_nil found).symm
  | cons entry rest ih =>
      have hnew : entry.1 ∉ found.map Prod.fst := by
        rw [List.map_append, List.nodup_append] at h
        exact fun hmem => h.2.2 _ hmem _ List.mem_cons_self rfl
      rw [List.foldl_cons, insertEntry_of_not_mem _ _ hnew, ih, List.append_assoc, List.singleton_append]
      rwa [List.append_assoc, List.singleton_append]

/-- If entries that are put one after another are as many as the keys then there, each had a key of its own. -/
theorem eq_of_foldl_insertEntry {entries found : List (κ × α)} (hlength : entries.length = found.length)
    (hkeys : (found.map Prod.fst).Nodup)
    (h : entries.foldl (fun found entry => insertEntry entry.1 entry.2 found) [] = found) : entries = found := by
  have hsubset : found ⊆ entries := by
    intro entry hentry
    rw [← h] at hentry
    exact (mem_foldl_insertEntry hentry).resolve_right List.not_mem_nil
  have hperm : found.Perm entries :=
    (hkeys.of_map.subperm hsubset).perm_of_length_le (Nat.le_of_eq hlength)
  have hnodup : (entries.map Prod.fst).Nodup := (hperm.map Prod.fst).nodup_iff.mp hkeys
  have hkeys' : (([] ++ entries).map Prod.fst).Nodup := hnodup
  rw [← h, foldl_insertEntry_of_nodup entries hkeys', List.nil_append]

/-! ### What stands at a key -/

theorem lookup_cons (entry : κ × α) (entries : List (κ × α)) (key : κ) :
    (entry :: entries).lookup key = if key = entry.1 then some entry.2 else entries.lookup key := by
  rw [List.lookup_cons]
  by_cases h : key = entry.1
  · rw [h, beq_self_eq_true, if_pos rfl]
  · rw [beq_false_of_ne h, if_neg h]

theorem lookup_insertEntry (key other : κ) (value : α) (entries : List (κ × α)) :
    (insertEntry key value entries).lookup other =
      if other = key then some value else entries.lookup other := by
  induction entries with
  | nil => exact lookup_cons (key, value) [] other
  | cons entry rest ih =>
      rw [insertEntry]
      by_cases hentry : entry.1 = key
      · rw [if_pos hentry, lookup_cons, lookup_cons, hentry]
        by_cases h : other = key
        · rw [if_pos h, if_pos h]
        · rw [if_neg h, if_neg h, if_neg h]
      · rw [if_neg hentry, lookup_cons, lookup_cons, ih]
        by_cases hother : other = entry.1
        · have h : ¬other = key := fun heq => hentry (hother.symm.trans heq)
          rw [if_pos hother, if_neg h, if_pos hother]
        · rw [if_neg hother, if_neg hother]

theorem lookup_eq_none_of_not_mem {entries : List (κ × α)} {key : κ} (h : key ∉ entries.map Prod.fst) :
    entries.lookup key = none := by
  rw [List.lookup_eq_none_iff]
  intro entry hentry
  exact bne_iff_ne.mpr fun heq => h (heq ▸ List.mem_map_of_mem hentry)

theorem mem_of_lookup {entries : List (κ × α)} {key : κ} {value : α} (h : entries.lookup key = some value) :
    (key, value) ∈ entries := by
  obtain ⟨before, after, rfl, -⟩ := List.lookup_eq_some_iff.mp h
  exact List.mem_append_right _ List.mem_cons_self

theorem lookup_of_mem {entries : List (κ × α)} (hnodup : (entries.map Prod.fst).Nodup) {key : κ} {value : α}
    (h : (key, value) ∈ entries) : entries.lookup key = some value := by
  induction entries with
  | nil => cases h
  | cons first rest ih =>
      obtain ⟨hfirst, hrest⟩ := List.nodup_cons.mp hnodup
      rw [lookup_cons]
      rcases List.mem_cons.mp h with rfl | h
      · rw [if_pos rfl]
      · have hne : key ≠ first.1 := by
          rintro rfl
          exact hfirst (List.mem_map.mpr ⟨_, h, rfl⟩)
        rw [if_neg hne]
        exact ih hrest h

/-- Putting the value at a key that is there already changes nothing. -/
theorem insertEntry_of_lookup {entries : List (κ × α)} {key : κ} {value : α}
    (h : entries.lookup key = some value) : insertEntry key value entries = entries := by
  induction entries with
  | nil => cases h
  | cons first rest ih =>
      rw [lookup_cons] at h
      rw [insertEntry]
      by_cases hkey : first.1 = key
      · rw [if_pos hkey.symm] at h
        rw [if_pos hkey, ← hkey, ← Option.some.inj h]
      · rw [if_neg (Ne.symm hkey)] at h
        rw [if_neg hkey, ih h]

end insertEntry

namespace OrderedMap

variable {κ α : Type} [DecidableEq κ]

omit [DecidableEq κ] in
theorem ext {m m' : OrderedMap κ α} (h : m.entries = m'.entries) : m = m' := by
  cases m
  cases m'
  cases h
  rfl

theorem find?_eq_some_of_get? {m : OrderedMap κ α} {key : κ} {value : α}
    (h : m.get? key = some value) :
    m.entries.find? (fun entry => entry.1 = key) = some (key, value) := by
  obtain ⟨⟨key', value'⟩, hfind, rfl⟩ := Option.map_eq_some_iff.mp h
  have hkey : key' = key := by simpa using List.find?_some hfind
  rw [hfind, hkey]

theorem get?_eq_none_iff {m : OrderedMap κ α} {key : κ} : m.get? key = none ↔ key ∉ m.keys := by
  simp only [get?, keys, Option.map_eq_none_iff, List.find?_eq_none, decide_eq_true_eq, List.mem_map,
    not_exists, not_and]

theorem get?_eq_some_iff {m : OrderedMap κ α} {key : κ} {value : α} :
    m.get? key = some value ↔ (key, value) ∈ m.entries := by
  constructor
  · intro h
    exact List.mem_of_find?_eq_some (find?_eq_some_of_get? h)
  · intro h
    cases hget : m.get? key with
    | none =>
        rw [get?_eq_none_iff] at hget
        exact absurd (List.mem_map_of_mem (f := Prod.fst) h) hget
    | some found =>
        have hfound := List.mem_of_find?_eq_some (find?_eq_some_of_get? hget)
        have heq := List.inj_on_of_nodup_map m.nodup h hfound rfl
        rw [(Prod.mk.inj heq).2]

theorem contains_iff_mem {m : OrderedMap κ α} {key : κ} : m.contains key = true ↔ key ∈ m.keys := by
  rw [contains, Option.isSome_iff_ne_none, ne_eq, get?_eq_none_iff, not_not]

@[simp] theorem get?_empty (key : κ) : (empty : OrderedMap κ α).get? key = none := rfl

@[simp] theorem get?_insert (key other : κ) (value : α) (m : OrderedMap κ α) :
    (m.insert key value).get? other = if other = key then some value else m.get? other := by
  simp only [get?, insert, find?_insertEntry]
  split <;> rfl

theorem eq_or_get?_of_get?_insert {key other : κ} {value found : α} {m : OrderedMap κ α}
    (h : (m.insert key value).get? other = some found) :
    (other = key ∧ found = value) ∨ (other ≠ key ∧ m.get? other = some found) := by
  rw [get?_insert] at h
  by_cases heq : other = key
  · rw [if_pos heq] at h
    exact Or.inl ⟨heq, (Option.some.inj h).symm⟩
  · rw [if_neg heq] at h
    exact Or.inr ⟨heq, h⟩

theorem get?_filter (keep : κ × α → Bool) (key : κ) (m : OrderedMap κ α) :
    (m.filter keep).get? key = (m.get? key).filter fun value => keep (key, value) := by
  ext value
  rw [get?_eq_some_iff, Option.filter_eq_some_iff, get?_eq_some_iff]
  exact List.mem_filter

@[simp] theorem get?_erase (key other : κ) (m : OrderedMap κ α) :
    (m.erase key).get? other = if other = key then none else m.get? other := by
  rw [erase, get?_filter]
  by_cases h : other = key
  · simp [h]
  · cases m.get? other <;> simp [h]

/-! ### Counts of entries -/

omit [DecidableEq κ] in
theorem length_keys (m : OrderedMap κ α) : m.keys.length = m.size := List.length_map _

theorem size_insert (key : κ) (value : α) (m : OrderedMap κ α) :
    (m.insert key value).size = if m.contains key then m.size else m.size + 1 := by
  have hkeys : (m.insert key value).keys = if key ∈ m.keys then m.keys else m.keys ++ [key] :=
    keys_insertEntry key value m.entries
  simp only [contains_iff_mem]
  rw [← length_keys, hkeys]
  split
  · exact length_keys m
  · rw [List.length_append, List.length_singleton, length_keys]

theorem size_erase {key : κ} {m : OrderedMap κ α} (h : m.contains key = true) :
    (m.erase key).size + 1 = m.size := by
  have hkeys : (m.erase key).keys = m.keys.erase key := by
    have hnodup : m.keys.Nodup := m.nodup
    rw [hnodup.erase_eq_filter]
    simp only [keys, erase, filter, List.filter_map]
    refine congrArg (List.map Prod.fst) (List.filter_congr fun entry _ => ?_)
    by_cases hentry : entry.1 = key <;> simp [hentry]
  have hpos := List.length_pos_of_mem (contains_iff_mem.mp h)
  rw [← length_keys, ← length_keys, hkeys, List.length_erase_of_mem (contains_iff_mem.mp h)]
  omega

omit [DecidableEq κ] in
/-- What a filter keeps and what it leaves out is everything. -/
theorem size_filter_values (m : OrderedMap κ α) (drop : α → Bool) :
    (m.filter fun entry => !drop entry.2).size + m.values.countP drop = m.size := by
  have hvalues : m.values.countP drop = m.entries.countP fun entry => drop entry.2 := List.countP_map
  rw [hvalues, size, size, filter, ← List.countP_eq_length_filter, Nat.add_comm,
    List.length_eq_countP_add_countP fun entry : κ × α => drop entry.2]
  simp

/-! ### Counts of values -/

variable {m : OrderedMap κ α} {key : κ} (p : α → Bool) (value : α)

theorem countP_values_insert {old : α} (h : m.get? key = some old) :
    (m.insert key value).values.countP p + (if p old then 1 else 0) =
      m.values.countP p + (if p value then 1 else 0) := by
  simp only [values, insert, List.countP_map]
  exact countP_insertEntry key value (p ∘ Prod.snd) (find?_eq_some_of_get? h)

theorem countP_values_insert_new (h : m.get? key = none) :
    (m.insert key value).values.countP p = m.values.countP p + (if p value then 1 else 0) := by
  rw [get?_eq_none_iff] at h
  simp only [values, insert, insertEntry_of_not_mem _ _ h, List.map_append, List.countP_append,
    List.map_cons, List.map_nil, List.countP_singleton]

end OrderedMap
end QuestionBoard
