/-!
Maps that keep the order in which their keys first came. Inserting at a key that is there replaces
the value and keeps the place; a key that was erased and comes again stands at the end.
-/

namespace QuestionBoard

/-- Puts a value at a key of a list of entries: at the key's place if it is there, at the end if not. -/
def insertEntry {κ α : Type} [DecidableEq κ] (key : κ) (value : α) : List (κ × α) → List (κ × α)
  | [] => [(key, value)]
  | entry :: rest =>
    if entry.1 = key then (key, value) :: rest else entry :: insertEntry key value rest

section insertEntry

variable {κ α : Type} [DecidableEq κ] (key : κ) (value : α)

theorem keys_insertEntry (entries : List (κ × α)) :
    (insertEntry key value entries).map Prod.fst =
      if key ∈ entries.map Prod.fst then entries.map Prod.fst else entries.map Prod.fst ++ [key] := by
  induction entries with
  | nil => simp [insertEntry]
  | cons entry rest ih =>
    by_cases h : entry.1 = key
    · simp [insertEntry, h]
    · have h' : ¬ key = entry.1 := fun e => h e.symm
      simp only [insertEntry, if_neg h, List.map_cons, ih, List.mem_cons, h', false_or]
      split <;> simp

theorem nodup_keys_insertEntry {entries : List (κ × α)} (h : (entries.map Prod.fst).Nodup) :
    ((insertEntry key value entries).map Prod.fst).Nodup := by
  rw [keys_insertEntry]
  split
  · exact h
  · next hkey =>
    rw [List.nodup_append]
    refine ⟨h, by simp, ?_⟩
    intro a ha b hb
    simp only [List.mem_singleton] at hb
    subst hb
    intro hab
    exact hkey (hab ▸ ha)

end insertEntry

/-- A map from `κ` to `α` that remembers the order of its keys. -/
structure OrderedMap (κ α : Type) where
  entries : List (κ × α)
  nodup : (entries.map Prod.fst).Nodup

namespace OrderedMap

variable {κ α : Type} [DecidableEq κ]

/-- The map without entries. -/
def empty : OrderedMap κ α := ⟨[], by simp⟩

instance : Inhabited (OrderedMap κ α) := ⟨empty⟩

def keys (m : OrderedMap κ α) : List κ := m.entries.map Prod.fst

def values (m : OrderedMap κ α) : List α := m.entries.map Prod.snd

def size (m : OrderedMap κ α) : Nat := m.entries.length

def get? (key : κ) (m : OrderedMap κ α) : Option α :=
  (m.entries.find? fun entry => entry.1 = key).map Prod.snd

def contains (key : κ) (m : OrderedMap κ α) : Bool := (m.get? key).isSome

def insert (key : κ) (value : α) (m : OrderedMap κ α) : OrderedMap κ α :=
  ⟨insertEntry key value m.entries, nodup_keys_insertEntry key value m.nodup⟩

/-- Keeps the entries that pass a test. -/
def filter (keep : κ × α → Bool) (m : OrderedMap κ α) : OrderedMap κ α :=
  ⟨m.entries.filter keep, m.nodup.sublist (List.filter_sublist.map Prod.fst)⟩

def erase (key : κ) (m : OrderedMap κ α) : OrderedMap κ α := m.filter fun entry => entry.1 ≠ key

/-- The map that entries make when they are inserted one after another. -/
def ofEntries (entries : List (κ × α)) : OrderedMap κ α :=
  entries.foldl (fun m (key, value) => m.insert key value) empty

end OrderedMap

end QuestionBoard
