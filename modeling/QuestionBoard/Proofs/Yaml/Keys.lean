import QuestionBoard.Proofs.Settings.Files
import QuestionBoard.Proofs.Settings.Layers

/-!
The keys of YAML mappings. A key that comes again in a mapping replaces the value and keeps its place, so no
mapping of a document that is read has a text as a key twice, at any depth.
-/

namespace QuestionBoard

theorem Json.Keyed.insertEntry {key : Text} {value : Json} {entries : List (Text × Json)}
    (h : (Json.object entries).Keyed) (hvalue : value.Keyed) :
    (Json.object (insertEntry key value entries)).Keyed := by
  cases h with
  | other h => cases h
  | object nodup values =>
      refine .object (nodup_keys_insertEntry key value nodup) fun entry hentry => ?_
      rcases mem_insertEntry key value hentry with rfl | hentry
      · exact hvalue
      · exact values entry hentry

namespace Yaml

variable {value document : Yaml} {entries : List (Option Text × Yaml)} {text : String}

theorem entriesToJson_append (entries entries' : List (Option Text × Yaml)) :
    entriesToJson (entries ++ entries') = entriesToJson entries ++ entriesToJson entries' := by
  induction entries with
  | nil => rfl
  | cons entry rest ih =>
      obtain ⟨_ | key, value⟩ := entry
      · rw [List.cons_append, entriesToJson, entriesToJson, ih]
      · rw [List.cons_append, entriesToJson, entriesToJson, ih, List.cons_append]

theorem entriesToJson_insertEntry (key : Text) (value : Yaml) (entries : List (Option Text × Yaml)) :
    entriesToJson (insertEntry (some key) value entries) =
      insertEntry key value.toJson (entriesToJson entries) := by
  induction entries with
  | nil => rfl
  | cons entry rest ih =>
      obtain ⟨_ | other, found⟩ := entry
      · rw [insertEntry, if_neg (Option.some_ne_none key).symm, entriesToJson, entriesToJson, ih]
      · rw [insertEntry, entriesToJson, insertEntry]
        by_cases hkey : other = key
        · rw [if_pos (congrArg some hkey), if_pos hkey, entriesToJson]
        · rw [if_neg fun heq => hkey (Option.some.inj heq), if_neg hkey, entriesToJson, ih]

theorem keyed_insertKey (key : Option Text) (h : (mapping entries).toJson.Keyed) (hvalue : value.toJson.Keyed) :
    (mapping (insertKey key value entries)).toJson.Keyed := by
  cases key with
  | none =>
      have hsame : entriesToJson (insertKey none value entries) = entriesToJson entries := by
        rw [insertKey, entriesToJson_append]
        exact List.append_nil _
      rw [toJson, hsame]
      exact h
  | some key =>
      rw [toJson, insertKey, entriesToJson_insertEntry]
      exact h.insertEntry hvalue

/-! ### What nodes mean -/

/-- A plain scalar means no object. -/
theorem isObject_of_plainData {data : Json} (h : plainData text = .ok data) : data.isObject = false := by
  have hplain : ∀ {value : Json}, value.isObject = false →
      (.ok value : Except Json.ReadError Json) = .ok data → data.isObject = false := by
    intro value hvalue heq
    rwa [← Except.ok.inj heq]
  unfold plainData at h
  dsimp only at h
  split at h
  · cases h
  split at h
  · exact hplain rfl h
  split at h
  · exact hplain rfl h
  split at h
  · exact hplain rfl h
  split at h
  · exact hplain rfl h
  split at h
  · exact hplain rfl h
  split at h
  · obtain ⟨n, -, rfl⟩ := ok_of_map h
    rfl
  split at h
  · refine hplain ?_ h
    split <;> rfl
  · exact hplain rfl h

theorem keyed_of_plainValue (h : plainValue text = .ok document) : document.toJson.Keyed := by
  unfold plainValue at h
  split at h
  · rw [← Except.ok.inj h]
    exact .other rfl
  · cases h
  · obtain ⟨data, hdata, rfl⟩ := ok_of_map h
    exact .other (isObject_of_plainData hdata)

namespace Node

mutual

/-- What a node means has no key twice in a mapping. -/
theorem keyed_of_value : ∀ (node : Node) (document : Yaml), node.value = .ok document → document.toJson.Keyed
  | .plain text, document, h => by
      rw [value] at h
      exact keyed_of_plainValue h
  | .quoted text, document, h => by
      rw [value] at h
      rw [← Except.ok.inj h]
      exact .other rfl
  | .list items, document, h => by
      rw [value] at h
      obtain ⟨values, -, rfl⟩ := ok_of_map h
      exact .other rfl
  | .mapping entries, document, h => by
      rw [value] at h
      obtain ⟨done, hdone, rfl⟩ := ok_of_map h
      exact keyed_of_entryValues entries [] done (.object List.nodup_nil nofun) hdone

/-- Nor has a mapping to which entries are added one after another, if it had none before. -/
theorem keyed_of_entryValues : ∀ (entries : List (Node × Node)) (done values : List (Option Text × Yaml)),
    (Yaml.mapping done).toJson.Keyed → entryValues entries done = .ok values →
      (Yaml.mapping values).toJson.Keyed
  | [], done, values, hdone, h => by
      rw [entryValues] at h
      rwa [← Except.ok.inj h]
  | (key, value) :: rest, done, values, hdone, h => by
      rw [entryValues] at h
      obtain ⟨meant, -, h⟩ := ok_of_bind h
      obtain ⟨name, -, h⟩ := ok_of_bind h
      obtain ⟨meant', hmeant, h⟩ := ok_of_bind h
      exact keyed_of_entryValues rest _ values (keyed_insertKey name hdone (keyed_of_value value meant' hmeant)) h

end

end Node

theorem value_of_parse (h : parse text = .ok document) : ∃ node : Node, node.value = .ok document := by
  unfold parse at h
  split at h
  · cases h
  · next node _ =>
      split at h
      · cases h
      · exact ⟨node, h⟩

/-- No mapping of a document that is read has a key twice. -/
theorem keyed_of_read (h : Yaml.read text = .ok document) : document.toJson.Keyed := by
  obtain ⟨node, hnode⟩ := value_of_parse (ok_of_mapError h)
  exact node.keyed_of_value document hnode

end Yaml

end QuestionBoard
