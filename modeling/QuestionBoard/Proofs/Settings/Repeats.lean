import Mathlib.Data.List.Destutter
import QuestionBoard.Proofs.Settings.Precedence
import QuestionBoard.Proofs.Settings.Saved
import QuestionBoard.Proofs.Yaml.Keys

/-!
Laying an object over one over which it lies already. Nothing changes, whatever the lower object was, and
neither does an object that is laid over itself. Merged keys are those of the lower object, and behind them
the new ones of the upper one. So it makes no difference to what is loaded that files of settings are named
again right after themselves.
-/

namespace QuestionBoard

namespace Json

variable {lower upper value found : Json} {under above : List (Text × Json)} {path : List Text}

/-! ### Once more over the same -/

theorem laidOver_none (upper : Json) : laidOver none upper = upper := laidOver_eq (Or.inr nofun)

/-- Entries stay as they are if each value laid over them is what stands at its key. -/
theorem mergedEntries_eq_self
    (h : ∀ entry ∈ above, under.lookup entry.1 = some (laidOver (under.lookup entry.1) entry.2)) :
    mergedEntries under above = under := by
  induction above with
  | nil => rw [mergedEntries]
  | cons entry rest ih =>
      obtain ⟨hentry, hrest⟩ := List.forall_mem_cons.mp h
      rw [mergedEntries, insertEntry_of_lookup hentry]
      exact ih hrest

/-- What lies over something already changes nothing if it is laid over it again. With nothing below, this
says that it may be laid over itself. -/
theorem laidOver_laidOver (h : upper.Keyed) (lower : Option Json) :
    laidOver (some (laidOver lower upper)) upper = laidOver lower upper := by
  induction h generalizing lower with
  | other h => rw [laidOver_eq (Or.inl h), laidOver_eq (Or.inl h)]
  | @object above nodup values ih =>
      have hlookup : ∀ entry ∈ above, above.lookup entry.1 = some entry.2 :=
        fun entry hentry => lookup_of_mem nodup hentry
      -- Of each key it is to be shown that the upper value lies already over what is there.
      obtain ⟨under, _, rfl, habove⟩ | ⟨hstands, -⟩ := laidOver_cases lower (.object above)
      · obtain rfl := object.inj habove
        show Json.object (mergedEntries (mergedEntries under above) above) = .object (mergedEntries under above)
        refine congrArg Json.object (mergedEntries_eq_self fun entry hentry => ?_)
        have hmerged : (mergedEntries under above).lookup entry.1 =
            some (laidOver (under.lookup entry.1) entry.2) := by
          rw [lookup_mergedEntries nodup, hlookup entry hentry]
        rw [hmerged, ih entry hentry]
      · rw [hstands]
        show Json.object (mergedEntries above above) = .object above
        refine congrArg Json.object (mergedEntries_eq_self fun entry hentry => ?_)
        have hover : laidOver (some entry.2) entry.2 = entry.2 := by
          have := ih entry hentry none
          rwa [laidOver_none] at this
        rw [hlookup entry hentry, hover]

theorem merge_self (h : upper.Keyed) : merge upper upper = upper := by
  have := laidOver_laidOver h none
  rwa [laidOver_none] at this

theorem merge_merge (h : upper.Keyed) (lower : Json) : merge (merge lower upper) upper = merge lower upper :=
  laidOver_laidOver h (some lower)

theorem layered_append_twice {layer : Json} (h : layer.Keyed) (before after : List Json) :
    layered (before ++ layer :: layer :: after) = layered (before ++ layer :: after) := by
  simp only [layered, List.foldl_append, List.foldl_cons, merge_merge h]

/-! ### The order of merged keys -/

/-- The keys that were there come first, and the new ones after them. -/
theorem keys_mergedEntries (h : (above.map Prod.fst).Nodup) (under : List (Text × Json)) :
    (mergedEntries under above).map Prod.fst =
      under.map Prod.fst ++ (above.map Prod.fst).filter (· ∉ under.map Prod.fst) := by
  induction above generalizing under with
  | nil => rw [mergedEntries, List.map_nil, List.filter_nil, List.append_nil]
  | cons entry rest ih =>
      obtain ⟨hfirst, hrest⟩ := List.nodup_cons.mp h
      rw [mergedEntries, ih hrest, keys_insertEntry, List.map_cons]
      by_cases hmem : entry.1 ∈ under.map Prod.fst
      · rw [if_pos hmem, List.filter_cons_of_neg (by simpa using hmem)]
      · -- The key counts as there from now on, but it does not come again.
        have hothers : (rest.map Prod.fst).filter (· ∉ under.map Prod.fst ++ [entry.1]) =
            (rest.map Prod.fst).filter (· ∉ under.map Prod.fst) := by
          refine List.filter_congr fun other hother => ?_
          have hne : other ≠ entry.1 := fun heq => hfirst (heq ▸ hother)
          simp [hne]
        rw [if_neg hmem, hothers, List.filter_cons_of_pos (by simpa using hmem), List.append_assoc,
          List.singleton_append]

theorem isObject_of_get? {data : Json} {key : Text} (h : data.get? key = some value) :
    data.isObject = true := by
  cases hobject : data.isObject with
  | true => rfl
  | false => cases (get?_of_isObject_eq_false hobject).symm.trans h

/-- Where both have a value at the end of a path, the one lies over the other there. -/
theorem at?_merge (h : upper.Keyed) (hlower : lower.at? path = some value) (hupper : upper.at? path = some found) :
    (merge lower upper).at? path = some (merge value found) := by
  induction path generalizing lower upper with
  | nil =>
      rw [Option.some.inj hlower, Option.some.inj hupper]
      rfl
  | cons key rest ih =>
      obtain ⟨inner, hinner, hvalue⟩ := Option.bind_eq_some_iff.mp hlower
      obtain ⟨outer, houter, hfound⟩ := Option.bind_eq_some_iff.mp hupper
      have hget : (merge lower upper).get? key = some (merge inner outer) := by
        rw [merge, get?_laidOver (isObject_of_get? hinner) (isObject_of_get? houter) h, hinner, houter]
        rfl
      rw [at?, hget]
      exact ih (h.get? houter) hvalue hfound

theorem Keyed.at? (h : upper.Keyed) (hat : upper.at? path = some value) : value.Keyed := by
  induction path generalizing upper with
  | nil =>
      rw [← Option.some.inj hat]
      exact h
  | cons key rest ih =>
      obtain ⟨inner, hget, hinner⟩ := Option.bind_eq_some_iff.mp hat
      exact ih (h.get? hget) hinner

theorem KeysOnce.keyed (h : upper.KeysOnce) : upper.Keyed := by
  induction h with
  | object hkeys _ ih => exact .object hkeys ih
  | _ => exact .other rfl

end Json

/-! ### Files named again -/

namespace SettingsSources

variable {s : SettingsSources} {given given' : Option (List String)} {path text : String}

/-- Whether no mapping of a document that is read as YAML has a key twice. -/
def ReadsKeyed (s : SettingsSources) : Prop :=
  ∀ text document, s.readYaml text = .ok document → document.toJson.Keyed

def settingsOf (files : List String) (s : SettingsSources) : Except Failure Settings := do
  let found ← files.mapM s.content
  s.settings (found.filterMap id)

theorem keyed_of_read (h : s.ReadsKeyed) {ending : String} {read : String → Except (Option Failure) Yaml}
    (hreader : s.reader? ending = some read) {document : Yaml} (hread : read text = .ok document) :
    document.toJson.Keyed := by
  unfold reader? at hreader
  split at hreader
  · rw [← Option.some.inj hreader] at hread
    exact h text document hread
  · split at hreader
    · rw [← Option.some.inj hreader] at hread
      obtain ⟨data, hdata, rfl⟩ := ok_of_map hread
      rw [Yaml.toJson_ofJson]
      exact (Json.keysOnce_of_parse (ok_of_mapError hdata)).keyed
    · cases hreader

theorem keyed_of_read? (h : s.ReadsKeyed) {document : Yaml} (hread : s.read? path text = some (.ok document)) :
    document.toJson.Keyed := by
  obtain ⟨read, hreader, hread⟩ := Option.map_eq_some_iff.mp hread
  split at hread
  · cases hread
  · exact keyed_of_read h hreader hread

theorem read?_of_document {found : Yaml} (h : s.document path text = .ok found) :
    s.read? path text = some (.ok found) := by
  unfold document at h
  split at h
  · cases h
  · next hread => rw [hread, Except.ok.inj h]
  · cases h

theorem keyed_of_content (h : s.ReadsKeyed) {mapping : Yaml} (hcontent : s.content path = .ok (some mapping)) :
    mapping.toJson.Keyed := by
  unfold content at hcontent
  split at hcontent
  · cases hcontent
  · cases hcontent
  · cases hcontent
  · next text _ =>
    obtain ⟨document, hdocument, htop⟩ := ok_of_bind hcontent
    obtain rfl : document = mapping := by
      unfold topLevel at htop
      split at htop
      · cases htop
      · exact Option.some.inj (Except.ok.inj htop)
      · cases htop
    exact keyed_of_read? h (read?_of_document hdocument)

theorem settings_append_twice {document : Yaml} (h : document.toJson.Keyed) (before after : List Yaml) :
    s.settings (before ++ document :: document :: after) = s.settings (before ++ document :: after) := by
  have hlayered : Json.layered ((before ++ document :: document :: after).map Yaml.toJson) =
      Json.layered ((before ++ document :: after).map Yaml.toJson) := by
    simp only [List.map_append, List.map_cons]
    exact Json.layered_append_twice h _ _
  have hkeys : (before ++ document :: document :: after).any Yaml.hasOtherKeys =
      (before ++ document :: after).any Yaml.hasOtherKeys := by
    simp only [List.any_append, List.any_cons, Bool.or_self_left]
  unfold SettingsSources.settings
  rw [hlayered, hkeys]

/-- A file that is read again right after itself changes nothing. -/
theorem settingsOf_append_twice (h : s.ReadsKeyed) (path : String) (before after : List String) :
    s.settingsOf (before ++ path :: path :: after) = s.settingsOf (before ++ path :: after) := by
  simp only [settingsOf, List.mapM_append, List.mapM_cons]
  cases before.mapM s.content with
  | error f => rfl
  | ok earlier =>
      cases hcontent : s.content path with
      | error f => rfl
      | ok mapping =>
          cases after.mapM s.content with
          | error f => rfl
          | ok later =>
              show s.settings ((earlier ++ mapping :: mapping :: later).filterMap id) =
                s.settings ((earlier ++ mapping :: later).filterMap id)
              simp only [List.filterMap_append]
              cases mapping with
              | none => rfl
              | some mapping => exact settings_append_twice (keyed_of_content h hcontent) _ _

/-- Files come to the same settings without their repeats in a row. -/
theorem settingsOf_destutter (h : s.ReadsKeyed) (files : List String) :
    s.settingsOf (files.destutter (· ≠ ·)) = s.settingsOf files := by
  -- The induction leaves the files that are done in front.
  have hrest : ∀ (rest before : List String) (path : String),
      s.settingsOf (before ++ rest.destutter' (· ≠ ·) path) = s.settingsOf (before ++ path :: rest) := by
    intro rest
    induction rest with
    | nil => exact fun before path => rfl
    | cons next rest ih =>
        intro before path
        by_cases hne : path ≠ next
        · rw [List.destutter'_cons_pos _ hne]
          have := ih (before ++ [path]) next
          simpa using this
        · obtain rfl := not_not.mp hne
          rw [List.destutter'_cons_neg _ hne, ih, settingsOf_append_twice h]
  cases files with
  | nil => rfl
  | cons path rest => exact hrest rest [] path

theorem load_congr (h : s.ReadsKeyed)
    (hfiles : (s.namedFiles given).destutter (· ≠ ·) = (s.namedFiles given').destutter (· ≠ ·)) (j : Journal) :
    ((s.load given).outcome () j).result = ((s.load given').outcome () j).result := by
  calc ((s.load given).outcome () j).result
      = s.settingsOf (s.namedFiles given) := s.yields_load given j
    _ = s.settingsOf (s.namedFiles given') := by
        rw [← settingsOf_destutter h, hfiles, settingsOf_destutter h]
    _ = ((s.load given').outcome () j).result := (s.yields_load given' j).symm

end SettingsSources

namespace Json

variable {lower upper : Json}

/-- An object may be laid over itself, and again over what it lies over, and nothing changes. Wherever both
have an object at the end of a path, the merge has there the keys of the lower one in their order, and behind
them the new ones of the upper one in theirs. And as long as no mapping that is read has a key twice, the same
settings, or the same failure, come of files that are the same but for repeats in a row. -/
theorem merge_absorbs (hlower : lower.IsMapping) (hupper : upper.IsMapping) :
    merge lower lower = lower ∧ merge (merge lower upper) upper = merge lower upper ∧
      (∀ path under above, lower.at? path = some (.object under) → upper.at? path = some (.object above) →
        ∃ entries, (merge lower upper).at? path = some (.object entries) ∧
          entries.map Prod.fst =
            under.map Prod.fst ++ (above.map Prod.fst).filter (· ∉ under.map Prod.fst)) ∧
      ∀ (s : SettingsSources) (given given' : Option (List String)) (j : Journal), s.ReadsKeyed →
        (s.namedFiles given).destutter (· ≠ ·) = (s.namedFiles given').destutter (· ≠ ·) →
        ((s.load given).outcome () j).result = ((s.load given').outcome () j).result := by
  refine ⟨merge_self hlower.keyed, merge_merge hupper.keyed lower, fun path under above hunder habove => ?_,
    fun s given given' j hread hfiles => SettingsSources.load_congr hread hfiles j⟩
  refine ⟨mergedEntries under above, at?_merge hupper.keyed hunder habove, ?_⟩
  cases hupper.keyed.at? habove with
  | object nodup values => exact keys_mergedEntries nodup under
  | other h => cases h

def twoSections : Json :=
  .object [("log", .object [("level", .text "INFO")]),
    ("server", .object [("host", .text "board"), ("port", .int 1)])]

/-- A section with a value of the second one, and a third one. -/
def otherSections : Json :=
  .object [("server", .object [("workers", .int 4), ("port", .int 2)]), ("answer", .object [])]

theorem keyed_of_no_object {entries : List (Text × Json)} (nodup : (entries.map Prod.fst).Nodup)
    (h : ∀ entry ∈ entries, entry.2.isObject = false) : (object entries).Keyed :=
  .object nodup fun entry hentry => .other (h entry hentry)

theorem isMapping_twoSections : twoSections.IsMapping := by
  refine ⟨rfl, .object (by decide) ?_⟩
  simp only [List.forall_mem_cons, List.not_mem_nil, false_imp_iff, implies_true, and_true]
  exact ⟨keyed_of_no_object (by decide) (by decide), keyed_of_no_object (by decide) (by decide)⟩

theorem isMapping_otherSections : otherSections.IsMapping := by
  refine ⟨rfl, .object (by decide) ?_⟩
  simp only [List.forall_mem_cons, List.not_mem_nil, false_imp_iff, implies_true, and_true]
  exact ⟨keyed_of_no_object (by decide) (by decide), keyed_of_no_object (by decide) (by decide)⟩

/-- The server's own keys come before the new one of the section that is laid over it, and a pattern that finds
a file right after it was named makes no difference. -/
theorem merge_absorbs_sections :
    twoSections.IsMapping ∧ otherSections.IsMapping ∧ merge twoSections twoSections = twoSections ∧
      merge (merge twoSections otherSections) otherSections = merge twoSections otherSections ∧
      (∃ entries, (merge twoSections otherSections).at? ["server"] = some (.object entries) ∧
        entries.map Prod.fst = (["host", "port", "workers"] : List Text)) ∧
      (SettingsSources.inFile "log:").ReadsKeyed ∧
      (SettingsSources.inFile "log:").namedFiles (some ["c.yaml", "*.yaml"]) = ["c.yaml", "c.yaml"] ∧
      (((SettingsSources.inFile "log:").load (some ["c.yaml", "*.yaml"])).outcome () .verbose).result =
        (((SettingsSources.inFile "log:").load (some ["c.yaml"])).outcome () .verbose).result := by
  obtain ⟨hself, hagain, hkeys, hload⟩ := merge_absorbs isMapping_twoSections isMapping_otherSections
  have hnamed : (SettingsSources.inFile "log:").namedFiles (some ["c.yaml", "*.yaml"]) = ["c.yaml", "c.yaml"] := by
    decide +kernel
  have hread : (SettingsSources.inFile "log:").ReadsKeyed := fun _ _ => Yaml.keyed_of_read
  refine ⟨isMapping_twoSections, isMapping_otherSections, hself, hagain, hkeys ["server"] _ _ rfl rfl, hread,
    hnamed, hload _ _ _ _ hread ?_⟩
  rw [hnamed, SettingsSources.namedFiles_inFile]
  rfl

end Json

end QuestionBoard
