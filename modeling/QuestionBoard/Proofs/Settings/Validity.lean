import QuestionBoard.Proofs.Field.Reader
import QuestionBoard.Settings.Basic

/-!
Settings that are valid: their numbers are within their bounds. Settings that are read are valid, and valid
settings are read back from the object that they are written as.
-/

namespace QuestionBoard

/-! ### Bounds -/

/-- Whether the numbers of the section are within their bounds. -/
structure PostgresSettings.Valid (s : PostgresSettings) : Prop where
  maxSize : 1 ≤ s.maxSize
  poolTimeout : s.poolTimeout.isPositive = true

/-- Whether the numbers of the section are within their bounds. -/
structure AnswerSettings.Valid (s : AnswerSettings) : Prop where
  timeout : s.timeout.isPositive = true
  cacheSeconds : ∀ seconds, s.cacheSeconds = some seconds → 1 ≤ seconds

/-- Whether all numbers are within their bounds. -/
structure Settings.Valid (s : Settings) : Prop where
  db : ∀ postgres, s.db = .postgres postgres → postgres.Valid
  answer : s.answer.Valid

theorem PostgresSettings.valid_usual : ({} : PostgresSettings).Valid :=
  ⟨by decide, by decide +kernel⟩

theorem AnswerSettings.valid_usual : ({} : AnswerSettings).Valid := by
  refine ⟨by decide +kernel, fun seconds h => ?_⟩
  cases h
  decide

/-! ### Settings that are read -/

theorem PostgresSettings.valid_of_ofData {data : Json} {s : PostgresSettings} (h : ofData data = .valid s) :
    s.Valid := by
  obtain ⟨_, runMigrations, hecho, -, rfl⟩ := Checked.seq_eq_valid_iff.mp h
  obtain ⟨_, echo, htimeout, -, rfl⟩ := Checked.seq_eq_valid_iff.mp hecho
  obtain ⟨_, poolTimeout, hsize, hpoolTimeout, rfl⟩ := Checked.seq_eq_valid_iff.mp htimeout
  obtain ⟨_, maxSize, hurl, hmaxSize, rfl⟩ := Checked.seq_eq_valid_iff.mp hsize
  obtain ⟨_, url, hkind, -, rfl⟩ := Checked.seq_eq_valid_iff.mp hurl
  obtain ⟨_, -, rfl⟩ := Checked.map_eq_valid_iff.mp hkind
  constructor
  · exact Field.ofKey_yields (P := (1 ≤ ·)) hmaxSize (fun _ _ h => (Field.intFrom_eq_valid_iff.mp h).2)
      valid_usual.maxSize
  · exact Field.ofKey_yields (P := fun x => x.isPositive = true) hpoolTimeout
      (fun _ _ h => (Field.positiveFloat_eq_valid_iff.mp h).2) valid_usual.poolTimeout

theorem AnswerSettings.valid_of_ofData {data : Json} {s : AnswerSettings} (h : ofData data = .valid s) :
    s.Valid := by
  obtain ⟨entries, rfl, hread⟩ := Field.exists_object_of_sectionOf h
  obtain ⟨_, cacheSeconds, htimeout, hseconds, rfl⟩ := Checked.seq_eq_valid_iff.mp hread
  obtain ⟨_, timeout, hurl, hpositive, rfl⟩ := Checked.seq_eq_valid_iff.mp htimeout
  obtain ⟨url, -, rfl⟩ := Checked.map_eq_valid_iff.mp hurl
  constructor
  · exact Field.ofKey_yields (P := fun x => x.isPositive = true) hpositive
      (fun _ _ h => (Field.positiveFloat_eq_valid_iff.mp h).2) valid_usual.timeout
  · refine Field.ofKey_yields (P := fun found => ∀ seconds, found = some seconds → 1 ≤ seconds) hseconds ?_
      valid_usual.cacheSeconds
    rintro inner _ hinner seconds rfl
    exact (Field.intFrom_eq_valid_iff.mp (Field.read_of_optional hinner)).2

theorem DatabaseSettings.valid_of_ofData {data : Json} {s : DatabaseSettings} (h : ofData data = .valid s) :
    ∀ postgres, s = .postgres postgres → postgres.Valid := by
  rintro postgres rfl
  obtain ⟨name, read, hlookup, hread⟩ := Field.exists_read_of_byTag h
  simp only [List.lookup_cons, List.lookup_nil] at hlookup
  split at hlookup
  · cases hlookup
    cases hread
  · split at hlookup
    · cases hlookup
      obtain ⟨postgres', hread, hsame⟩ := Checked.map_eq_valid_iff.mp hread
      cases hsame
      exact PostgresSettings.valid_of_ofData hread
    · cases hlookup

/-- Settings that are read are valid. -/
theorem Settings.valid_of_ofData {data : Json} {s : Settings} (h : ofData data = .valid s) : s.Valid := by
  obtain ⟨_, answer, hcache, hanswer, rfl⟩ := Checked.seq_eq_valid_iff.mp h
  obtain ⟨_, cache, hdb, -, rfl⟩ := Checked.seq_eq_valid_iff.mp hcache
  obtain ⟨_, db, hlog, hdatabase, rfl⟩ := Checked.seq_eq_valid_iff.mp hdb
  obtain ⟨_, log, hserver, -, rfl⟩ := Checked.seq_eq_valid_iff.mp hlog
  obtain ⟨_, server, hname, -, rfl⟩ := Checked.seq_eq_valid_iff.mp hserver
  obtain ⟨serviceName, -, rfl⟩ := Checked.map_eq_valid_iff.mp hname
  constructor
  · exact Field.ofKey_yields (P := fun db => ∀ postgres, db = .postgres postgres → postgres.Valid) hdatabase
      (fun _ _ h => DatabaseSettings.valid_of_ofData h) (by simp)
  · exact Field.ofKey_yields hanswer (fun _ _ h => AnswerSettings.valid_of_ofData h)
      AnswerSettings.valid_usual

/-! ### Settings that are written -/

theorem Field.optional_ofText? (text : Option Text) : optional Field.text (.ofText? text) = .valid text := by
  cases text <;> rfl

theorem PostgresSettings.ofData_toJson {s : PostgresSettings} (h : s.Valid) : ofData s.toJson = .valid s := by
  have hsize : Field.intFrom 1 (.int s.maxSize) = .valid s.maxSize :=
    Field.intFrom_eq_valid_iff.mpr ⟨rfl, h.maxSize⟩
  have htimeout : Field.positiveFloat (.float s.poolTimeout) = .valid s.poolTimeout :=
    Field.positiveFloat_eq_valid_iff.mpr ⟨rfl, h.poolTimeout⟩
  unfold ofData
  dsimp only
  rw [Field.ofKey_of_get? "max_size" rfl hsize, Field.ofKey_of_get? "pool_timeout" rfl htimeout]
  rfl

theorem DatabaseSettings.ofData_toJson {s : DatabaseSettings}
    (h : ∀ postgres, s = .postgres postgres → postgres.Valid) : ofData s.toJson = .valid s := by
  cases s with
  | inMemory => rfl
  | postgres s =>
      refine Field.byTag_of_lookup rfl rfl ?_
      exact Checked.map_eq_valid_iff.mpr ⟨s, PostgresSettings.ofData_toJson (h s rfl), rfl⟩

theorem RedisSettings.ofData_toJson (s : RedisSettings) : ofData s.toJson = .valid s := by
  unfold ofData
  dsimp only
  rw [Field.ofKey_of_get? "password" rfl (Field.optional_ofText? s.password)]
  rfl

theorem CacheSettings.ofData_toJson (s : CacheSettings) : ofData s.toJson = .valid s := by
  cases s with
  | inProcess => rfl
  | redis s =>
      refine Field.byTag_of_lookup rfl rfl ?_
      exact Checked.map_eq_valid_iff.mpr ⟨s, RedisSettings.ofData_toJson s, rfl⟩

theorem AnswerSettings.ofData_toJson {s : AnswerSettings} (h : s.Valid) : ofData s.toJson = .valid s := by
  have htimeout : Field.positiveFloat (.float s.timeout) = .valid s.timeout :=
    Field.positiveFloat_eq_valid_iff.mpr ⟨rfl, h.timeout⟩
  have hseconds : Field.optional (Field.intFrom 1) (.ofInt? s.cacheSeconds) = .valid s.cacheSeconds := by
    cases hfound : s.cacheSeconds with
    | none => rfl
    | some seconds =>
        exact Checked.map_eq_valid_iff.mpr
          ⟨seconds, Field.intFrom_eq_valid_iff.mpr ⟨rfl, h.cacheSeconds seconds hfound⟩, rfl⟩
  show AnswerSettings.mk <$> _ <*> Field.ofKey "timeout" _ _ _ <*> Field.ofKey "cache_ttl_seconds" _ _ _ = _
  rw [Field.ofKey_of_get? "timeout" rfl htimeout,
    Field.ofKey_of_get? "cache_ttl_seconds" rfl hseconds]
  rfl

theorem ServerSettings.ofData_toJson (s : ServerSettings) : ofData s.toJson = .valid s := rfl

theorem LogSettings.levelOfData_name (level : Log.Level) : levelOfData (.text level.name) = .valid level := by
  have hfound : levels.find? (·.name == upperCase level.name) = some level := by
    cases level <;> decide +kernel
  simp only [levelOfData, Field.text, Checked.andThen, Text.string?, Option.bind_some, hfound]

theorem LogSettings.ofData_toJson (s : LogSettings) : ofData s.toJson = .valid s := by
  show LogSettings.mk <$> Field.ofKey "level" _ _ _ <*> _ <*> Field.ofKey "file_path" _ _ _ = _
  rw [Field.ofKey_of_get? "level" rfl (levelOfData_name s.level),
    Field.ofKey_of_get? "file_path" rfl (Field.optional_ofText? s.filePath)]
  rfl

/-- Valid settings are read back from the object that they are written as. -/
theorem Settings.ofData_toJson {s : Settings} (h : s.Valid) : ofData s.toJson = .valid s := by
  unfold ofData
  dsimp only
  rw [Field.ofKey_of_get? "server" rfl (ServerSettings.ofData_toJson s.server),
    Field.ofKey_of_get? "log" rfl (LogSettings.ofData_toJson s.log),
    Field.ofKey_of_get? "db" rfl (DatabaseSettings.ofData_toJson h.db),
    Field.ofKey_of_get? "cache" rfl (CacheSettings.ofData_toJson s.cache),
    Field.ofKey_of_get? "answer" rfl (AnswerSettings.ofData_toJson h.answer)]
  rfl

end QuestionBoard
