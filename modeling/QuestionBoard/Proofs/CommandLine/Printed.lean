import QuestionBoard.Proofs.CommandLine.Address
import QuestionBoard.Proofs.Settings.Saved

/-!
Printed settings. They are data in a text with an indent, which holds them whatever they are, so long as
their whole numbers can be read again: a file with the text gives back the settings that were printed, with
halves of a character that stand side by side in a text as that character.
-/

namespace QuestionBoard

namespace ServerProgram

open ServerArguments (grammar)

variable {settings : Settings}

/-! ### The text -/

/-- Settings are read back, with their texts paired, from the text in which they are printed. -/
theorem parse_printed (h : ∀ n ∈ settings.wholeNumbers, Legible n) :
    Json.parse (printed settings) = .ok settings.paired.toJson := by
  rw [Settings.toJson_paired]
  refine Json.parse_write_append (Settings.hasLongInteger_toJson h) (some 2) "\n" (by decide) ?_
  exact Json.endsNumber_of_isSeparator (by decide) []

theorem not_mem_printed (h : ∀ n ∈ settings.wholeNumbers, Legible n) :
    '\r' ∉ (printed settings).toList := by
  have hshows : ∀ c ∈ (settings.toJson.write (some 2)).toList, (Json.Layout.mk (some 2)).Shows c :=
    (Json.readsBack_writeAt _ 0 settings.toJson (Settings.hasLongInteger_toJson h)).printable
  rw [printed, String.toList_append, List.mem_append, not_or]
  refine ⟨fun hmem => ?_, by decide⟩
  obtain hprintable | hend := hshows _ hmem
  · exact absurd hprintable (by decide)
  · exact absurd hend (by decide)

/-- Settings that were loaded and printed are loaded again with their texts paired. -/
theorem load_saved {s : SettingsSources} {given : Option (List String)} {j : Journal}
    (hload : ((s.load given).outcome () j).result = .ok settings)
    (hlegible : ∀ n ∈ settings.wholeNumbers, Legible n) {saved : SettingsSources} {given' : Option (List String)}
    {path : String} (hsaved : saved.HoldsOnly given' path (printed settings)) (j' : Journal) :
    ((saved.load given').outcome () j').result = .ok settings.paired :=
  hsaved.load_eq (not_mem_printed hlegible) (parse_printed hlegible)
    (SettingsSources.valid_of_load hload).paired

/-! ### The program -/

variable {φ : Type} [FileSystem φ]

/-- A program that is asked for its settings prints those that are loaded. -/
theorem result_run_of_printsSettings {listen : ServerStart → Action (Log.Logger φ) Unit} {s : SettingsSources}
    {arguments : List String} {logger : Log.Logger φ} {j : Journal} {a : ServerArguments}
    (hread : grammar.read {} arguments = .accepted a) (hprints : a.printsSettings = true)
    (hload : ((s.load a.configs).outcome () j).result = .ok settings) :
    ((run listen s arguments).outcome logger j).result = .ok { output := printed settings } := by
  rw [outcome_run_of_load logger hread hload, hprints]
  rfl

/-- Settings that can be loaded and have no whole number of more than 4300 digits are printed by each
program that loads them and is asked for them. Once a JSON file with what is printed is the only source of
settings, they are loaded again with their texts paired, which are the same settings just when no text has
halves of a character side by side. -/
theorem load_printed (φ : Type) [FileSystem φ] {s : SettingsSources} {given : Option (List String)} {j : Journal}
    {settings : Settings} (hload : ((s.load given).outcome () j).result = .ok settings)
    (hlegible : ∀ n ∈ settings.wholeNumbers, Legible n) :
    (∀ (listen : ServerStart → Action (Log.Logger φ) Unit) (sources : SettingsSources) (arguments : List String)
        (logger : Log.Logger φ) (j' : Journal) (a : ServerArguments),
      grammar.read {} arguments = .accepted a → a.printsSettings = true →
      ((sources.load a.configs).outcome () j').result = .ok settings →
      ((run listen sources arguments).outcome logger j').result = .ok { output := printed settings }) ∧
    ∀ (saved : SettingsSources) (given' : Option (List String)) (path : String) (j' : Journal),
      saved.HoldsOnly given' path (printed settings) →
      ((saved.load given').outcome () j').result = .ok settings.paired ∧
        (((saved.load given').outcome () j').result = .ok settings ↔ ∀ t ∈ settings.texts, t.Separated) := by
  refine ⟨fun listen sources arguments logger j' a hread hprints hsame => ?_,
    fun saved given' path j' hsaved => ?_⟩
  · exact result_run_of_printsSettings hread hprints hsame
  · have hloaded := load_saved hload hlegible hsaved j'
    refine ⟨hloaded, ?_⟩
    rw [hloaded, Except.ok.injEq, Settings.paired_eq_self_iff]

/-- A text of settings with both servers, a number in a text, a level in lower case and a null. -/
def variedText : String :=
  "\x7b\"log\": \x7b\"level\": \"debug\"\x7d, \"db\": \x7b\"kind\": \"postgres\", \"max_size\": \"7\"\x7d, " ++
    "\"cache\": \x7b\"kind\": \"redis\"\x7d, \"answer\": \x7b\"cache_ttl_seconds\": null\x7d\x7d"

def variedEntries : List (Text × Json) :=
  [("log", .object [("level", .text "debug")]),
    ("db", .object [("kind", .text "postgres"), ("max_size", .text "7")]),
    ("cache", .object [("kind", .text "redis")]), ("answer", .object [("cache_ttl_seconds", .null)])]

def variedSettings : Settings where
  log := { level := .debug }
  db := .postgres { maxSize := 7 }
  cache := .redis {}
  answer := { cacheSeconds := none }

theorem load_variedText (j : Journal) :
    (((SettingsSources.onlyFile variedText).load (some ["board.json"])).outcome () j).result =
      .ok variedSettings := by
  have hparse : Json.parse variedText = .ok (.object variedEntries) := by cbv
  have hlines : '\r' ∉ variedText.toList := by decide +kernel
  exact (SettingsSources.holdsOnly_onlyFile variedText).load_of_parse hlines hparse rfl rfl

/-- What is printed of these settings gives them back. -/
theorem load_printed_varied : ∃ text,
    ((run (fun _ => pure ()) (.onlyFile variedText) ["--config", "board.json", "config"]).outcome
      ({ name := "qna", files := {} } : Log.Logger FileTree) .verbose).result = .ok { output := text } ∧
    (((SettingsSources.onlyFile text).load (some ["board.json"])).outcome () .verbose).result =
      .ok variedSettings := by
  have hlegible : ∀ n ∈ variedSettings.wholeNumbers, Legible n := by decide
  have hseparated : ∀ t ∈ variedSettings.texts, t.Separated := by
    simp only [variedSettings, Settings.texts, DatabaseSettings.texts, CacheSettings.texts, Option.toList,
      List.nil_append, List.cons_append, List.forall_mem_cons]
    exact ⟨Text.separated_plain _, Text.separated_plain _, Text.separated_plain _, Text.separated_plain _,
      Text.separated_plain _, Text.separated_plain _, by simp⟩
  obtain ⟨hprinted, hloaded⟩ := load_printed FileTree (load_variedText .verbose) hlegible
  refine ⟨printed variedSettings, ?_, ?_⟩
  · exact hprinted _ _ _ _ _ { configs := some ["board.json"], printsSettings := true } rfl rfl
      (load_variedText .verbose)
  · obtain ⟨-, hsame⟩ := hloaded _ _ _ .verbose (SettingsSources.holdsOnly_onlyFile (printed variedSettings))
    exact hsame.mpr hseparated

/-- A YAML text with the halves of a character in the name of the log file. -/
def halvedText : String := "log: \x7bfile_path: \"\\uD83D\\uDE00.log\"\x7d"

/-- The name of the log file. -/
def halvedPath : Text := .ofPoints ([0xD83D, 0xDE00].filterMap CodePoint.ofCode?) ++ .plain ".log"

theorem exists_load_halvedText : ∃ settings,
    (((SettingsSources.inFile halvedText).load (some ["c.yaml"])).outcome () .verbose).result = .ok settings ∧
      settings.log.filePath = some halvedPath ∧ settings.wholeNumbers = [8000, 3600] := by
  have hread : (((SettingsSources.inFile halvedText).load (some ["c.yaml"])).outcome () .verbose).result.toOption.map
      (fun settings => (settings.log.filePath, settings.wholeNumbers)) = some (some halvedPath, [8000, 3600]) := by
    decide +kernel
  obtain ⟨settings, hsettings, hfields⟩ := Option.map_eq_some_iff.mp hread
  refine ⟨settings, ?_, Prod.mk.inj hfields⟩
  cases hresult : (((SettingsSources.inFile halvedText).load (some ["c.yaml"])).outcome () .verbose).result with
  | error f =>
      rw [hresult] at hsettings
      cases hsettings
  | ok found =>
      rw [hresult] at hsettings
      exact congrArg Except.ok (Option.some.inj hsettings)

/-- What is printed of settings with the halves of a character is loaded as others, which have the
character. -/
theorem not_load_printed_halved : ∃ settings,
    (((SettingsSources.inFile halvedText).load (some ["c.yaml"])).outcome () .verbose).result = .ok settings ∧
      (∀ n ∈ settings.wholeNumbers, Legible n) ∧
      (SettingsSources.onlyFile (printed settings)).HoldsOnly (some ["board.json"]) "board.json"
        (printed settings) ∧
      (((SettingsSources.onlyFile (printed settings)).load (some ["board.json"])).outcome () .verbose).result ≠
        .ok settings := by
  obtain ⟨settings, hload, hpath, hnumbers⟩ := exists_load_halvedText
  have hlegible : ∀ n ∈ settings.wholeNumbers, Legible n := by
    rw [hnumbers]
    decide
  have hholds := SettingsSources.holdsOnly_onlyFile (printed settings)
  refine ⟨settings, hload, hlegible, hholds, ?_⟩
  rw [load_saved hload hlegible hholds .verbose, ne_eq, Except.ok.injEq, Settings.paired_eq_self_iff]
  intro hseparated
  have hfile : halvedPath.Separated := hseparated _ (by simp [Settings.texts, hpath])
  exact absurd (hfile [] ⟨0x3d⟩ ⟨0x600⟩ _ rfl) (by decide)

end ServerProgram

end QuestionBoard
