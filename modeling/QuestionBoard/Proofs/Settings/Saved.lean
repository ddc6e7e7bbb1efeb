import QuestionBoard.Proofs.Json.RoundTrip
import QuestionBoard.Proofs.Settings.Loading
import QuestionBoard.Proofs.Settings.Validity

/-!
Settings that are saved as JSON in a file. A file that is the only source of settings settles them all: the
environment says nothing, and nothing is laid over what the file holds. So settings that were loaded are
loaded again from a file that holds them, with the texts in them paired.
-/

namespace QuestionBoard

/-! ### An environment without settings -/

namespace Variables

variable {vs : Variables}

/-- Whether no name starts as those of settings do, in any case. -/
def Foreign (vs : Variables) : Prop := ∀ entry ∈ vs, (lowerCase entry.1).startsWith start = false

theorem foreign_nil : Foreign [] := by simp [Foreign]

theorem Foreign.lowered (h : vs.Foreign) : ∀ entry ∈ vs.lowered, entry.1.startsWith start = false := by
  intro entry hentry
  have hfold : vs.lowered = (vs.map fun entry => (lowerCase entry.1, entry.2)).foldl
      (fun found entry => insertEntry entry.1 entry.2 found) [] := by
    rw [List.foldl_map]
    rfl
  rw [hfold] at hentry
  obtain ⟨origin, horigin, rfl⟩ :=
    List.mem_map.mp ((mem_foldl_insertEntry hentry).resolve_right List.not_mem_nil)
  exact h origin horigin

theorem startsWith_append_eq_false {name opening : String} (h : name.startsWith opening = false) (rest : String) :
    name.startsWith (opening ++ rest) = false := by
  rw [Bool.eq_false_iff, ne_eq, String.startsWith_string_iff] at h ⊢
  rw [String.toList_append]
  exact fun hprefix => h ((List.prefix_append _ _).trans hprefix)

section Lowered

variable (h : ∀ entry ∈ vs, entry.1.startsWith start = false)

include h

theorem value?_eq_none_of_foreign (name : String) : vs.value? (start ++ name) = none := by
  have hlookup : vs.lookup (start ++ name) = none := by
    refine lookup_eq_none_of_not_mem fun hmem => ?_
    obtain ⟨entry, hentry, hname⟩ := List.mem_map.mp hmem
    have hstart : entry.1.startsWith start = true := by
      rw [hname, String.startsWith_string_iff, String.toList_append]
      exact List.prefix_append _ _
    rw [h entry hentry] at hstart
    cases hstart
  rw [value?, hlookup]
  rfl

theorem fieldsOf_of_foreign (name : String) : fieldsOf name vs = .object [] := by
  unfold fieldsOf
  dsimp only
  -- No variable is a field of a section, so none is put in.
  induction vs with
  | nil => rfl
  | cons entry rest ih =>
      obtain ⟨hentry, hrest⟩ := List.forall_mem_cons.mp h
      have hfield : entry.1.startsWith (start ++ name ++ delimiter) = false :=
        startsWith_append_eq_false (startsWith_append_eq_false hentry name) delimiter
      rw [List.foldl_cons, if_neg (Bool.eq_false_iff.mp hfield)]
      exact ih hrest

theorem ofVariables_of_foreign (s : Section) (source : String) : s.ofVariables source vs = .ok none := by
  unfold Section.ofVariables
  rw [value?_eq_none_of_foreign h, fieldsOf_of_foreign h]

end Lowered

/-- An environment without settings says nothing of them. -/
theorem Foreign.settings_eq (h : vs.Foreign) (source : String) : vs.settings source = .ok (.object []) := by
  unfold Variables.settings
  dsimp only
  rw [value?_eq_none_of_foreign h.lowered]
  simp only [ofVariables_of_foreign h.lowered]
  rfl

end Variables

/-! ### Settings as data of a text -/

/-- Whether a whole number has no more digits than one is read from. -/
def Legible (n : Int) : Prop := (Nat.toDigits 10 n.natAbs).length ≤ maxIntegerDigits

instance (n : Int) : Decidable (Legible n) := inferInstanceAs (Decidable (_ ≤ _))

def DatabaseSettings.wholeNumbers : DatabaseSettings → List Int
  | .inMemory => []
  | .postgres s => [s.maxSize]

def CacheSettings.wholeNumbers : CacheSettings → List Int
  | .inProcess => []
  | .redis s => [s.port, s.db]

def Settings.wholeNumbers (s : Settings) : List Int :=
  s.server.port :: (s.db.wholeNumbers ++ s.cache.wholeNumbers ++ s.answer.cacheSeconds.toList)

theorem hasLongInteger_int {n : Int} (h : Legible n) : (Json.int n).hasLongInteger = false :=
  decide_eq_false (Nat.not_lt.mpr h)

theorem hasLongInteger_ofText? (text : Option Text) : (Json.ofText? text).hasLongInteger = false := by
  cases text <;> rfl

theorem hasLongInteger_ofInt? {n : Option Int} (h : ∀ m ∈ n, Legible m) : (Json.ofInt? n).hasLongInteger = false := by
  cases n with
  | none => rfl
  | some n => exact hasLongInteger_int (h n rfl)

theorem DatabaseSettings.hasLongInteger_toJson {s : DatabaseSettings} (h : ∀ n ∈ s.wholeNumbers, Legible n) :
    s.toJson.hasLongInteger = false := by
  cases s with
  | inMemory => rfl
  | postgres s =>
      have hsize := hasLongInteger_int (h s.maxSize List.mem_cons_self)
      simp only [Json.hasLongInteger] at hsize
      simp only [toJson, PostgresSettings.toJson, Json.hasLongInteger, Json.anyLongEntry, hsize, Bool.or_false]

theorem CacheSettings.hasLongInteger_toJson {s : CacheSettings} (h : ∀ n ∈ s.wholeNumbers, Legible n) :
    s.toJson.hasLongInteger = false := by
  cases s with
  | inProcess => rfl
  | redis s =>
      have hport := hasLongInteger_int (h s.port List.mem_cons_self)
      have hdb := hasLongInteger_int (h s.db (List.mem_cons_of_mem _ List.mem_cons_self))
      have hpassword := hasLongInteger_ofText? s.password
      simp only [Json.hasLongInteger] at hport hdb
      simp only [toJson, RedisSettings.toJson, Json.hasLongInteger, Json.anyLongEntry, hport, hdb, hpassword,
        Bool.or_false]

/-- Settings in which no whole number has too many digits are data in which none has. -/
theorem Settings.hasLongInteger_toJson {s : Settings} (h : ∀ n ∈ s.wholeNumbers, Legible n) :
    s.toJson.hasLongInteger = false := by
  simp only [wholeNumbers, List.forall_mem_cons, List.forall_mem_append, Option.mem_toList] at h
  obtain ⟨hserver, ⟨hdb, hcache⟩, hanswer⟩ := h
  have hport := hasLongInteger_int hserver
  have hseconds := hasLongInteger_ofInt? hanswer
  have hfile := hasLongInteger_ofText? s.log.filePath
  simp only [Json.hasLongInteger] at hport
  simp only [toJson, ServerSettings.toJson, LogSettings.toJson, AnswerSettings.toJson, Json.hasLongInteger,
    Json.anyLongEntry, hport, hseconds, hfile, DatabaseSettings.hasLongInteger_toJson hdb,
    CacheSettings.hasLongInteger_toJson hcache, Bool.or_false]

/-! ### Settings with their texts paired -/

def DatabaseSettings.paired : DatabaseSettings → DatabaseSettings
  | .inMemory => .inMemory
  | .postgres s => .postgres { s with url := s.url.paired }

def CacheSettings.paired : CacheSettings → CacheSettings
  | .inProcess => .inProcess
  | .redis s => .redis { s with
      host := s.host.paired, password := s.password.map Text.paired, keyStart := s.keyStart.paired }

def Settings.paired (s : Settings) : Settings where
  serviceName := s.serviceName.paired
  server := { s.server with host := s.server.host.paired }
  log := { s.log with filePath := s.log.filePath.map Text.paired }
  db := s.db.paired
  cache := s.cache.paired
  answer := { s.answer with url := s.answer.url.paired }

def DatabaseSettings.texts : DatabaseSettings → List Text
  | .inMemory => []
  | .postgres s => [s.url]

def CacheSettings.texts : CacheSettings → List Text
  | .inProcess => []
  | .redis s => s.host :: s.keyStart :: s.password.toList

def Settings.texts (s : Settings) : List Text :=
  s.serviceName :: s.server.host :: s.answer.url :: (s.log.filePath.toList ++ s.db.texts ++ s.cache.texts)

theorem map_paired_eq_self_iff {text : Option Text} :
    text.map Text.paired = text ↔ ∀ t ∈ text.toList, t.Separated := by
  cases text <;> simp [Text.paired_eq_self_iff]

theorem DatabaseSettings.paired_eq_self_iff {s : DatabaseSettings} :
    s.paired = s ↔ ∀ t ∈ s.texts, t.Separated := by
  cases s with
  | inMemory => simp [paired, texts]
  | postgres s =>
      obtain ⟨url, _, _, _, _⟩ := s
      simp [paired, texts, Text.paired_eq_self_iff]

theorem CacheSettings.paired_eq_self_iff {s : CacheSettings} : s.paired = s ↔ ∀ t ∈ s.texts, t.Separated := by
  cases s with
  | inProcess => simp [paired, texts]
  | redis s =>
      obtain ⟨host, _, _, password, keyStart, _⟩ := s
      simp only [paired, texts, redis.injEq, RedisSettings.mk.injEq, Text.paired_eq_self_iff, map_paired_eq_self_iff,
        List.forall_mem_cons]
      tauto

/-- Settings are as they are with their texts paired just when their texts are separated. -/
theorem Settings.paired_eq_self_iff {s : Settings} : s.paired = s ↔ ∀ t ∈ s.texts, t.Separated := by
  obtain ⟨serviceName, ⟨host, port⟩, ⟨level, useJson, filePath⟩, db, cache, ⟨url, timeout, cacheSeconds⟩⟩ := s
  simp only [paired, texts, mk.injEq, ServerSettings.mk.injEq, LogSettings.mk.injEq, AnswerSettings.mk.injEq,
    Text.paired_eq_self_iff, map_paired_eq_self_iff, DatabaseSettings.paired_eq_self_iff,
    CacheSettings.paired_eq_self_iff, List.forall_mem_cons, List.forall_mem_append]
  tauto

theorem Settings.Valid.paired {s : Settings} (h : s.Valid) : s.paired.Valid := by
  refine ⟨fun postgres hpostgres => ?_, ⟨h.answer.timeout, h.answer.cacheSeconds⟩⟩
  cases hdb : s.db with
  | inMemory =>
      rw [Settings.paired, hdb] at hpostgres
      cases hpostgres
  | postgres s' =>
      rw [Settings.paired, hdb] at hpostgres
      cases hpostgres
      exact ⟨(h.db s' hdb).maxSize, (h.db s' hdb).poolTimeout⟩

/-- An object keeps distinct keys that are names. -/
theorem Json.paired_object {entries : List (Text × Json)} (names : List String) (hnames : names.Nodup)
    (h : entries.map Prod.fst = names.map .plain) :
    (Json.object entries).paired = .object (entries.map fun entry => (entry.1, entry.2.paired)) := by
  have hkeys : (entries.map Prod.fst).Nodup := by
    rw [h]
    exact hnames.map fun _ _ heq => Text.plain.inj heq
  have hentries : entries.map pairedEntry = entries.map fun entry => (entry.1, entry.2.paired) := by
    refine List.map_congr_left fun entry hentry => ?_
    have hkey : entry.1 ∈ names.map Text.plain := h ▸ List.mem_map_of_mem hentry
    obtain ⟨name, -, hname⟩ := List.mem_map.mp hkey
    rw [pairedEntry, ← hname, Text.paired_plain]
  rw [paired, pairedEntries_eq, hentries, ofEntries_eq]
  rwa [List.map_map]

theorem Json.paired_ofText? (text : Option Text) : (Json.ofText? text).paired = .ofText? (text.map Text.paired) := by
  cases text <;> rfl

theorem Json.paired_ofInt? (n : Option Int) : (Json.ofInt? n).paired = .ofInt? n := by
  cases n <;> rfl

theorem DatabaseSettings.toJson_paired (s : DatabaseSettings) : s.paired.toJson = s.toJson.paired := by
  cases s with
  | inMemory => rfl
  | postgres s =>
      rw [toJson, PostgresSettings.toJson,
        Json.paired_object ["kind", "url", "max_size", "pool_timeout", "echo", "run_migrations"] (by decide) rfl]
      rfl

theorem CacheSettings.toJson_paired (s : CacheSettings) : s.paired.toJson = s.toJson.paired := by
  cases s with
  | inProcess => rfl
  | redis s =>
      rw [toJson, RedisSettings.toJson, Json.paired_object
        ["kind", "host", "port", "db", "password", "key_prefix", "connection_timeout"] (by decide) rfl]
      simp only [List.map_cons, Json.paired_ofText?]
      rfl

/-- Settings are written with their texts paired as the data that are paired. -/
theorem Settings.toJson_paired (s : Settings) : s.paired.toJson = s.toJson.paired := by
  have hserver : s.server.toJson.paired = s.paired.server.toJson := by
    rw [ServerSettings.toJson, Json.paired_object ["host", "port"] (by decide) rfl]
    rfl
  have hlog : s.log.toJson.paired = s.paired.log.toJson := by
    rw [LogSettings.toJson, Json.paired_object ["level", "use_json", "file_path"] (by decide) rfl]
    have hlevel : (Json.text (.plain s.log.level.name)).paired = .text (.plain s.log.level.name) :=
      congrArg Json.text (Text.paired_plain s.log.level.name)
    simp only [List.map_cons, Json.paired_ofText?, hlevel]
    rfl
  have hanswer : s.answer.toJson.paired = s.paired.answer.toJson := by
    rw [AnswerSettings.toJson, Json.paired_object ["url", "timeout", "cache_ttl_seconds"] (by decide) rfl]
    simp only [List.map_cons, Json.paired_ofInt?]
    rfl
  rw [toJson, toJson, Json.paired_object fieldNames (by decide) rfl]
  simp only [List.map_cons, hserver, hlog, hanswer, ← DatabaseSettings.toJson_paired, ← CacheSettings.toJson_paired]
  rfl

/-! ### JSON as a document -/

namespace Yaml

theorem toJson_ofJson (data : Json) : (ofJson data).toJson = data := by
  have h : ∀ entries : List (Text × Json),
      entriesToJson (entries.map fun entry => (some entry.1, .scalar entry.2)) = entries := by
    intro entries
    induction entries with
    | nil => rfl
    | cons entry rest ih => exact congrArg (entry :: ·) ih
  cases data with
  | object entries => exact congrArg Json.object (h entries)
  | _ => rfl

theorem hasOtherKeys_ofJson (data : Json) : (ofJson data).hasOtherKeys = false := by
  cases data with
  | object entries =>
      rw [ofJson, hasOtherKeys, List.any_map, List.any_eq_false]
      exact fun _ _ => Bool.false_ne_true
  | _ => rfl

end Yaml

/-! ### A file that is the only source -/

namespace SettingsSources

variable {s : SettingsSources} {given : Option (List String)} {path text : String} {settings : Settings}
  {j : Journal}

/-- Whether a file with a text, which is read as JSON, is the only source of settings. -/
structure HoldsOnly (given : Option (List String)) (path text : String) (s : SettingsSources) : Prop where
  only : s.namedFiles given = [path]
  ending : lowerCase (Path.suffix (Path.baseName path)) = ".json"
  file : s.files.entryAt (Path.names path) = .file text
  /-- Its bytes are a text, and the reader can follow it. -/
  unstopped : ∀ text, s.stopped? path text = none
  environment : s.environment.Foreign
  noEnvironmentFile : ∀ other, s.files.entryAt [".env"] ≠ .file other

def onlyFile (text : String) : SettingsSources := { files := .ofFiles [("board.json", text)] }

theorem holdsOnly_onlyFile (text : String) :
    (onlyFile text).HoldsOnly (some ["board.json"]) "board.json" text where
  only := rfl
  ending := by decide
  file := rfl
  unstopped _ := rfl
  environment := Variables.foreign_nil
  noEnvironmentFile := nofun

theorem unixLines_of_not_mem {cs : List Char} (h : '\r' ∉ cs) : unixLines cs = cs := by
  induction cs using unixLines.induct with
  | case1 rest _ => exact absurd List.mem_cons_self h
  | case2 rest _ _ => exact absurd List.mem_cons_self h
  | case3 c rest hne hne' ih =>
      rw [unixLines.eq_3 c rest hne hne', ih fun hmem => h (List.mem_cons_of_mem c hmem)]
  | case4 => rfl

/-- An object without line ends of other kinds is the mapping in a file. -/
theorem ReadsJson.mappingIn_eq {entries : List (Text × Json)} (h : s.ReadsJson path text)
    (hlines : '\r' ∉ text.toList) (hparse : Json.parse text = .ok (.object entries)) :
    s.mappingIn path text = .ok (some (.ofJson (.object entries))) := by
  have htext : String.ofList (unixLines text.toList) = text := by
    rw [unixLines_of_not_mem hlines, String.ofList_toList]
  have hread : Json.read text = .ok (.ofJson (.object entries)) := by
    unfold Json.read
    rw [hparse]
    rfl
  rw [mappingIn_of_read? (h.read?_eq.trans (congrArg some (htext.symm ▸ hread)))]
  rfl

/-- Nothing is laid over the data in a file that is the only source, if there are no options among them. -/
theorem HoldsOnly.merged_eq (h : s.HoldsOnly given path text) {data : Json} (hoptions : options data = []) :
    s.merged data = .ok (Json.merge (named data) (.object [])) := by
  have hfile : s.environmentFile = [] := by
    unfold environmentFile
    split
    · next other hother => exact absurd hother (h.noEnvironmentFile other)
    · rfl
  have hvariables : s.variableLayersBeside data = .ok (.object [], .object []) := by
    unfold variableLayersBeside
    rw [hoptions]
    show s.variableLayers = _
    unfold variableLayers
    rw [hfile, h.environment.settings_eq, Variables.foreign_nil.settings_eq]
    rfl
  unfold merged
  rw [hvariables]
  rfl

theorem layered_toJson (settings : Settings) : Json.layered [settings.toJson] = settings.toJson := by
  obtain ⟨_, _, _, _ | _, _ | _, _⟩ := settings <;> rfl

theorem named_toJson (settings : Settings) : named settings.toJson = settings.toJson := rfl

theorem options_toJson (settings : Settings) : options settings.toJson = [] := by
  have hnames : ∀ name ∈ Settings.fieldNames.map Text.plain, ¬(name.points.head? == some (.char '_')) = true := by
    decide
  exact List.filter_eq_nil_iff.mpr fun entry hentry => hnames entry.1 (List.mem_map_of_mem hentry)

/-- What is loaded from the only file is read from the object in it. -/
theorem HoldsOnly.load_of_parse (h : s.HoldsOnly given path text) (hlines : '\r' ∉ text.toList)
    {entries : List (Text × Json)} (hparse : Json.parse text = .ok (.object entries))
    (hoptions : options (Json.layered [.object entries]) = [])
    (hdata : Settings.ofData (Json.merge (named (Json.layered [.object entries])) (.object [])) =
      .valid settings) :
    ((s.load given).outcome () j).result = .ok settings := by
  have hcontent : s.content path = .ok (some (.ofJson (.object entries))) := by
    unfold content
    rw [h.file]
    exact ReadsJson.mappingIn_eq ⟨h.ending, h.unstopped _⟩ hlines hparse
  have hsettings : s.settings [.ofJson (.object entries)] = .ok settings := by
    have hkeys : [Yaml.ofJson (.object entries)].any Yaml.hasOtherKeys = false := by
      simp [Yaml.hasOtherKeys_ofJson]
    refine settings_eq_ok_iff.mpr ⟨hkeys, _, ?_, hdata⟩
    rw [List.map_singleton, Yaml.toJson_ofJson]
    exact h.merged_eq hoptions
  rw [s.yields_load given j, h.only, List.mapM_cons, List.mapM_nil, hcontent]
  exact hsettings

/-- Valid settings that are read from the only file are loaded from it. -/
theorem HoldsOnly.load_eq (h : s.HoldsOnly given path text) (hlines : '\r' ∉ text.toList)
    (hparse : Json.parse text = .ok settings.toJson) (hvalid : settings.Valid) :
    ((s.load given).outcome () j).result = .ok settings := by
  have hoptions : options (Json.layered [settings.toJson]) = [] := by
    rw [layered_toJson, options_toJson]
  refine h.load_of_parse hlines hparse hoptions ?_
  show Settings.ofData (Json.merge (named (Json.layered [settings.toJson])) (.object [])) = _
  rw [layered_toJson, named_toJson]
  exact Settings.ofData_toJson hvalid

/-- Settings that are loaded are valid. -/
theorem valid_of_load (h : ((s.load given).outcome () j).result = .ok settings) : settings.Valid := by
  rw [s.yields_load given j] at h
  cases hread : (s.namedFiles given).mapM s.content with
  | error f =>
      rw [hread] at h
      cases h
  | ok found =>
      rw [hread] at h
      obtain ⟨-, data, -, hdata⟩ := settings_eq_ok_iff.mp h
      exact Settings.valid_of_ofData hdata

end SettingsSources

end QuestionBoard
