import QuestionBoard.Proofs.Json.Reader
import QuestionBoard.Proofs.Settings.Files

/-!
What comes out of loading settings. Settings do, or the failure of a configuration, unless reading a file
raises something else than that it is malformed, a mapping has a key at its top that is no text, or an option
is refused: the faults that these raise are not turned into a failure of the configuration.
-/

namespace QuestionBoard

/-- Whether a value comes out, or the failure of a configuration. -/
abbrev Configured {α : Type} (result : Except Failure α) : Prop :=
  Settles (fun f => f.kind = .configuration) (fun _ => True) result

theorem configured_iff {α : Type} {result : Except Failure α} :
    Configured result ↔ ∀ f, result = .error f → f.kind = .configuration := by
  cases result with
  | error f => exact ⟨fun h f' hf => Except.error.inj hf ▸ h, fun h => h f rfl⟩
  | ok value => exact ⟨fun _ f hf => (nomatch hf), fun _ => trivial⟩

theorem not_configured_of_fault {α : Type} {result : Except Failure α} {f : Failure} {fault : FaultKind}
    (h : result = .error f) (hkind : f.kind = .fault fault) : ¬Configured result := by
  intro hconfigured
  cases hkind.symm.trans (configured_iff.mp hconfigured f h)

namespace SettingsSources

variable {s : SettingsSources} {given : Option (List String)} {path text : String} {f : Failure}

/-! ### Line ends -/

theorem countP_unixLines (cs : List Char) : (unixLines cs).countP Char.isDigit = cs.countP Char.isDigit := by
  induction cs using unixLines.induct with
  | case1 rest ih =>
      rw [unixLines, List.countP_cons_of_neg (by decide), List.countP_cons_of_neg (by decide),
        List.countP_cons_of_neg (by decide), ih]
  | case2 rest _ ih =>
      rw [unixLines, List.countP_cons_of_neg (by decide), List.countP_cons_of_neg (by decide), ih]
      assumption
  | case3 c rest _ _ ih =>
      rw [unixLines, List.countP_cons, List.countP_cons, ih]
      all_goals assumption
  | case4 => rfl

/-! ### Texts that are not read -/

/-- Whether reading the text of a file, with line feeds for line ends, comes to a failure of its own. -/
def Raises (path text : String) (f : Failure) (s : SettingsSources) : Prop :=
  s.read? path (String.ofList (unixLines text.toList)) = some (.error (some f))

/-- Whether a file is read as JSON, and nothing else stops that. -/
def ReadsJson (path text : String) (s : SettingsSources) : Prop :=
  lowerCase (Path.suffix (Path.baseName path)) = ".json" ∧
    s.stopped? path (String.ofList (unixLines text.toList)) = none

theorem reader?_json : s.reader? ".json" = some Json.read := rfl

theorem ReadsJson.read?_eq (h : s.ReadsJson path text) :
    s.read? path (String.ofList (unixLines text.toList)) =
      some (Json.read (String.ofList (unixLines text.toList))) := by
  obtain ⟨hending, hstopped⟩ := h
  unfold read?
  rw [hending, reader?_json, Option.map_some, hstopped]

/-- What JSON fails with otherwise than for its grammar is a whole number of too many digits. -/
theorem ReadsJson.integerTooLong (h : s.ReadsJson path text) (hraises : s.Raises path text f) :
    ∃ digits, f = .integerTooLong digits ∧ HasTooMany digits text.toList := by
  have hread : Json.read (String.ofList (unixLines text.toList)) = .error (some f) :=
    Option.some.inj (h.read?_eq.symm.trans hraises)
  obtain ⟨e, hparse, hfailure⟩ := error_of_mapError (error_of_map hread)
  obtain rfl | ⟨digits, rfl, hleast, hmost⟩ := Json.error_of_parse hparse
  · cases hfailure
  · rw [String.toList_ofList, countP_unixLines] at hmost
    exact ⟨digits, (Option.some.inj hfailure).symm, hleast, hmost⟩

theorem kind_of_topLevel {document : Yaml} (h : topLevel path document = .error f) : f.kind = .configuration := by
  unfold topLevel at h
  split at h
  · cases h
  · cases h
  · rw [← Except.error.inj h]
    rfl

/-- What fails in a text otherwise than as a configuration is reading it. -/
theorem mappingIn_eq_error_iff (hf : f.kind ≠ .configuration) :
    s.mappingIn path text = .error f ↔ s.Raises path text f := by
  unfold mappingIn document Raises
  cases hread : s.read? path (String.ofList (unixLines text.toList)) with
  | none =>
      refine ⟨fun h => absurd ?_ hf, fun h => (nomatch h)⟩
      rw [← Except.error.inj h]
      rfl
  | some result =>
      cases result with
      | ok document =>
          exact ⟨fun h => absurd (kind_of_topLevel h) hf, fun h => (nomatch h)⟩
      | error failure =>
          cases failure with
          | none =>
              refine ⟨fun h => absurd ?_ hf, fun h => (nomatch h)⟩
              rw [← Except.error.inj h]
              rfl
          | some f' =>
              refine ⟨fun h => ?_, fun h => ?_⟩
              · rw [← Except.error.inj h]
                rfl
              · rw [← Option.some.inj (Except.error.inj (Option.some.inj h))]
                rfl

theorem mappingIn_of_read? {found : Yaml}
    (h : s.read? path (String.ofList (unixLines text.toList)) = some (.ok found)) :
    s.mappingIn path text = topLevel path found := by
  unfold mappingIn document
  rw [h]
  rfl

theorem content_eq_error_iff (hfile : s.files.isDirectory (Path.names path) = false)
    (hf : f.kind ≠ .configuration) :
    s.content path = .error f ↔
      ∃ text, s.files.entryAt (Path.names path) = .file text ∧ s.Raises path text f := by
  unfold content
  unfold FileTree.isDirectory at hfile
  revert hfile
  generalize s.files.entryAt (Path.names path) = entry
  intro hfile
  cases entry with
  | file text =>
      refine (mappingIn_eq_error_iff hf).trans ⟨fun h => ⟨text, rfl, h⟩, ?_⟩
      rintro ⟨text', htext, h⟩
      rwa [FileTree.Entry.file.inj htext]
  | directory => cases hfile
  | absent => exact ⟨fun h => (nomatch h), fun ⟨_, h, _⟩ => (nomatch h)⟩
  | belowFile => exact ⟨fun h => (nomatch h), fun ⟨_, h, _⟩ => (nomatch h)⟩

/-! ### The environment -/

/-- Variables that are refused are a failure of the configuration. -/
theorem configured_ofVariables (section' : Variables.Section) (source : String) (vs : Variables) :
    Configured (section'.ofVariables source vs) := by
  unfold Variables.Section.ofVariables
  dsimp only
  split
  · split
    · exact trivial
    · exact trivial
  · split
    · exact trivial
    · exact trivial
    · exact trivial
    · split
      · rfl
      · exact trivial

theorem configured_settings (source : String) (vs : Variables) :
    Configured (vs.settings source) := by
  unfold Variables.settings
  dsimp only
  refine Settles.bind (settles_filterMapM fun section' _ => ?_) fun found _ => trivial
  exact (configured_ofVariables section' source vs.lowered).bind fun data _ => trivial

theorem configured_variableLayers : Configured s.variableLayers := by
  refine (configured_settings _ _).bind fun outer _ => ?_
  refine (configured_settings _ _).bind fun inner _ => ?_
  exact trivial

/-- Whether the documents of files have options among them that are refused. -/
def RefusesOptions (documents : List Yaml) (f : Failure) (s : SettingsSources) : Prop :=
  options (Json.layered (documents.map Yaml.toJson)) ≠ [] ∧
    s.optioned? (options (Json.layered (documents.map Yaml.toJson))) = some (.error f)

theorem variableLayersBeside_eq_error_iff {documents : List Yaml} (hf : f.kind ≠ .configuration) :
    s.variableLayersBeside (Json.layered (documents.map Yaml.toJson)) = .error f ↔ s.RefusesOptions documents f := by
  have husual : s.variableLayers ≠ .error f := fun h => hf (configured_iff.mp configured_variableLayers f h)
  unfold variableLayersBeside RefusesOptions
  cases options (Json.layered (documents.map Yaml.toJson)) with
  | nil => exact ⟨fun h => absurd h husual, fun h => absurd rfl h.1⟩
  | cons option rest =>
      show (s.optioned? (option :: rest)).getD s.variableLayers = _ ↔ _
      cases s.optioned? (option :: rest) with
      | none => exact ⟨fun h => absurd h husual, fun h => (nomatch h.2)⟩
      | some said =>
          exact ⟨fun h => ⟨List.cons_ne_nil option rest, congrArg some h⟩, fun h => Option.some.inj h.2⟩

/-- What fails in making settings otherwise than as a configuration is a key that is no text, or an option that
is refused. -/
theorem settings_eq_error_iff {documents : List Yaml} (hf : f.kind ≠ .configuration) :
    s.settings documents = .error f ↔ documents.any Yaml.hasOtherKeys = true ∧ f = otherKey ∨
      documents.any Yaml.hasOtherKeys = false ∧ s.RefusesOptions documents f := by
  unfold settings
  cases documents.any Yaml.hasOtherKeys with
  | true =>
      refine ⟨fun h => Or.inl ⟨rfl, (Except.error.inj h).symm⟩, ?_⟩
      rintro (⟨-, rfl⟩ | ⟨h, -⟩)
      · rfl
      · cases h
  | false =>
      rw [← variableLayersBeside_eq_error_iff hf]
      unfold merged
      cases s.variableLayersBeside (Json.layered (documents.map Yaml.toJson)) with
      | error f' =>
          show Except.error f' = Except.error f ↔ _
          refine ⟨fun h => Or.inr ⟨rfl, congrArg Except.error (Except.error.inj h)⟩, ?_⟩
          rintro (⟨h, -⟩ | ⟨-, h⟩)
          · cases h
          · exact congrArg Except.error (Except.error.inj h)
      | ok said =>
          have hconfigured : Configured ((Settings.ofData (Json.merge
              (named (Json.layered (documents.map Yaml.toJson))) (Json.merge said.2 said.1))).toExcept invalid) := by
            cases Settings.ofData _ with
            | valid settings => exact trivial
            | broken violations => rfl
          refine ⟨fun h => absurd (configured_iff.mp hconfigured f h) hf, ?_⟩
          rintro (⟨h, -⟩ | ⟨-, h⟩)
          · cases h
          · cases h

/-! ### Loading -/

/-- Whether a file is the first that is not read, for a failure of its own. -/
def BreaksOff (given : Option (List String)) (f : Failure) (s : SettingsSources) : Prop :=
  ∃ before path after text, s.namedFiles given = before ++ path :: after ∧
    (∀ other ∈ before, ∃ mapping, s.content other = .ok mapping) ∧
    s.files.entryAt (Path.names path) = .file text ∧ s.Raises path text f

/-- Whether all files are read, and the mapping in one has a key at its top that is no text. -/
def HasOtherKey (given : Option (List String)) (s : SettingsSources) : Prop :=
  (∀ path ∈ s.namedFiles given, ∃ mapping, s.content path = .ok mapping) ∧
    ∃ path ∈ s.namedFiles given, ∃ mapping, s.content path = .ok (some mapping) ∧
      mapping.hasOtherKeys = true

/-- Whether all files are read, no mapping in one has a key at its top that is no text, and an option among
their keys is refused. -/
def RefusesOption (given : Option (List String)) (f : Failure) (s : SettingsSources) : Prop :=
  ∃ found, (s.namedFiles given).mapM s.content = .ok found ∧
    (found.filterMap id).any Yaml.hasOtherKeys = false ∧ s.RefusesOptions (found.filterMap id) f

theorem hasOtherKey_iff : s.HasOtherKey given ↔
    ∃ found, (s.namedFiles given).mapM s.content = .ok found ∧
      (found.filterMap id).any Yaml.hasOtherKeys = true := by
  constructor
  · intro ⟨hread, path, hpath, mapping, hmapping, hkeys⟩
    obtain ⟨found, hfound⟩ := exists_mapM_eq_ok_iff.mpr hread
    refine ⟨found, hfound, List.any_eq_true.mpr ⟨mapping, ?_, hkeys⟩⟩
    exact List.mem_filterMap.mpr ⟨_, (mem_of_mapM_eq_ok hfound).mpr ⟨path, hpath, hmapping⟩, rfl⟩
  · intro ⟨found, hfound, hany⟩
    obtain ⟨mapping, hmapping, hkeys⟩ := List.any_eq_true.mp hany
    obtain ⟨_, hmem, rfl⟩ := List.mem_filterMap.mp hmapping
    obtain ⟨path, hpath, hcontent⟩ := (mem_of_mapM_eq_ok hfound).mp hmem
    exact ⟨exists_mapM_eq_ok_iff.mp ⟨found, hfound⟩, path, hpath, mapping, hcontent, hkeys⟩

section Named

variable (hfiles : ∀ path ∈ s.namedFiles given, s.files.isDirectory (Path.names path) = false)

include hfiles

theorem breaksOff_iff (hf : f.kind ≠ .configuration) :
    s.BreaksOff given f ↔ (s.namedFiles given).mapM s.content = .error f := by
  rw [mapM_eq_error_iff]
  constructor
  · intro ⟨before, path, after, text, hnamed, hbefore, hentry, hraises⟩
    have hpath : path ∈ s.namedFiles given := by simp [hnamed]
    exact ⟨before, path, after, hnamed, hbefore,
      (content_eq_error_iff (hfiles path hpath) hf).mpr ⟨text, hentry, hraises⟩⟩
  · intro ⟨before, path, after, hnamed, hbefore, hcontent⟩
    have hpath : path ∈ s.namedFiles given := by simp [hnamed]
    obtain ⟨text, hentry, hraises⟩ := (content_eq_error_iff (hfiles path hpath) hf).mp hcontent
    exact ⟨before, path, after, text, hnamed, hbefore, hentry, hraises⟩

/-- What loading fails with otherwise than as a configuration is raised by reading a file, for a key that is
no text, or for an option. -/
theorem load_eq_error_iff (hf : f.kind ≠ .configuration) (j : Journal) :
    ((s.load given).outcome () j).result = .error f ↔
      s.BreaksOff given f ∨ s.HasOtherKey given ∧ f = otherKey ∨ s.RefusesOption given f := by
  rw [s.yields_load given j, breaksOff_iff hfiles hf, hasOtherKey_iff]
  constructor
  · intro h
    obtain hread | ⟨found, hread, hsettings⟩ := error_of_bind h
    · exact Or.inl hread
    · obtain ⟨hany, hkey⟩ | ⟨hany, hoptions⟩ := (settings_eq_error_iff hf).mp hsettings
      · exact Or.inr (Or.inl ⟨⟨found, hread, hany⟩, hkey⟩)
      · exact Or.inr (Or.inr ⟨found, hread, hany, hoptions⟩)
  · rintro (hread | ⟨⟨found, hread, hany⟩, hkey⟩ | ⟨found, hread, hoptions⟩)
    · rw [hread]
      rfl
    · rw [hread]
      exact (settings_eq_error_iff hf).mpr (Or.inl ⟨hany, hkey⟩)
    · rw [hread]
      exact (settings_eq_error_iff hf).mpr (Or.inr hoptions)

end Named

/-- Where no path that is named is a directory, settings or the failure of a configuration come out of
loading exactly if reading a file comes to no other failure, no mapping has a key that is no text and no
option is refused with another failure; any other failure that comes out is one of these. What comes out of
JSON in this way, unless its reader is stopped, is the failure of a whole number with more than 4300 digits. -/
theorem configured_load_iff (s : SettingsSources) (given : Option (List String)) (j : Journal)
    (hfiles : ∀ path ∈ s.namedFiles given, s.files.isDirectory (Path.names path) = false) :
    (Configured ((s.load given).outcome () j).result ↔
        (∀ f, s.BreaksOff given f → f.kind = .configuration) ∧ ¬s.HasOtherKey given ∧
          ∀ f, s.RefusesOption given f → f.kind = .configuration) ∧
      (∀ f, f.kind ≠ .configuration → (((s.load given).outcome () j).result = .error f ↔
        s.BreaksOff given f ∨ s.HasOtherKey given ∧ f = otherKey ∨ s.RefusesOption given f)) ∧
      ∀ path text f, s.ReadsJson path text → s.Raises path text f →
        ∃ digits, f = .integerTooLong digits ∧ HasTooMany digits text.toList := by
  have hfails := fun (f : Failure) (hf : f.kind ≠ .configuration) => load_eq_error_iff hfiles hf j
  refine ⟨?_, hfails, fun path text f hjson hraises => hjson.integerTooLong hraises⟩
  rw [configured_iff]
  constructor
  · refine fun h => ⟨fun f hbreaks => ?_, fun hkey => ?_, fun f hoption => ?_⟩
    · by_contra hf
      exact hf (h f ((hfails f hf).mpr (Or.inl hbreaks)))
    · cases h otherKey ((hfails otherKey nofun).mpr (Or.inr (Or.inl ⟨hkey, rfl⟩)))
    · by_contra hf
      exact hf (h f ((hfails f hf).mpr (Or.inr (Or.inr hoption))))
  · intro ⟨hbreaks, hkey, hoptions⟩ f h
    by_contra hf
    obtain hbreak | ⟨hother, -⟩ | hoption := (hfails f hf).mp h
    · exact hf (hbreaks f hbreak)
    · exact hkey hother
    · exact hf (hoptions f hoption)

def inFile (text : String) : SettingsSources := { files := .ofFiles [("c.yaml", text)] }

theorem namedFiles_inFile (text : String) : (inFile text).namedFiles (some ["c.yaml"]) = ["c.yaml"] := rfl

theorem entryAt_inFile (text : String) : (inFile text).files.entryAt (Path.names "c.yaml") = .file text := rfl

theorem isDirectory_inFile (text : String) : ∀ path ∈ (inFile text).namedFiles (some ["c.yaml"]),
    (inFile text).files.isDirectory (Path.names path) = false := by
  rw [namedFiles_inFile]
  intro path hpath
  rw [List.mem_singleton.mp hpath]
  rfl

theorem read?_inFile {text : String} (hlines : String.ofList (unixLines text.toList) = text) :
    (inFile text).read? "c.yaml" (String.ofList (unixLines text.toList)) = some (Yaml.read text) := by
  have hending : lowerCase (Path.suffix (Path.baseName "c.yaml")) = ".yaml" := rfl
  rw [hlines]
  unfold read?
  rw [hending]
  rfl

theorem content_inFile {text : String} {found : Yaml} (hlines : String.ofList (unixLines text.toList) = text)
    (hread : Yaml.read text = .ok found) : (inFile text).content "c.yaml" = topLevel "c.yaml" found :=
  mappingIn_of_read? ((read?_inFile hlines).trans (congrArg some hread))

theorem hasOtherKey_numberedKey : (inFile "1:").HasOtherKey (some ["c.yaml"]) := by
  have hcompose : Yaml.compose "1:" = .ok (.mapping [(.plain "1", .plain "")]) := rfl
  have hread : Yaml.read "1:" = .ok (.mapping [(none, .scalar .null)]) := by
    unfold Yaml.read Yaml.parse
    rw [hcompose]
    rfl
  have hcontent := content_inFile rfl hread
  refine ⟨fun path hpath => ?_, "c.yaml", List.mem_singleton_self _, _, hcontent, rfl⟩
  rw [List.mem_singleton.mp hpath]
  exact ⟨_, hcontent⟩

/-- The failure of a number of base 2 without digits. -/
def noDigits : Failure := .fault .value "invalid literal for int() with base 2: ''"

theorem breaksOff_noDigits : (inFile "0b_").BreaksOff (some ["c.yaml"]) noDigits := by
  have hcompose : Yaml.compose "0b_" = .ok (.plain "0b_") := rfl
  have hread : Yaml.read "0b_" = .error (some noDigits) := by
    unfold Yaml.read Yaml.parse
    rw [hcompose]
    rfl
  exact ⟨[], "c.yaml", [], "0b_", rfl, nofun, rfl, (read?_inFile rfl).trans (congrArg some hread)⟩

theorem read_sectionAlone : Yaml.read "log:" = .ok (.mapping [(some "log", .scalar .null)]) := by
  have hcompose : Yaml.compose "log:" = .ok (.mapping [(.plain "log", .plain "")]) := rfl
  unfold Yaml.read Yaml.parse
  rw [hcompose]
  rfl

theorem mapM_content_sectionAlone : ((inFile "log:").namedFiles (some ["c.yaml"])).mapM (inFile "log:").content =
    .ok [some (.mapping [(some "log", .scalar .null)])] := by
  have hcontent : (inFile "log:").content "c.yaml" = .ok (some (.mapping [(some "log", .scalar .null)])) :=
    content_inFile rfl read_sectionAlone
  rw [namedFiles_inFile, List.mapM_cons, List.mapM_nil, hcontent]
  rfl

theorem not_breaksOff_sectionAlone (f : Failure) : ¬(inFile "log:").BreaksOff (some ["c.yaml"]) f := by
  rintro ⟨before, path, after, text, hnamed, -, hentry, hraises⟩
  have hpath : path ∈ (inFile "log:").namedFiles (some ["c.yaml"]) := by simp [hnamed]
  obtain rfl := List.mem_singleton.mp hpath
  obtain rfl := FileTree.Entry.file.inj (hentry.symm.trans (entryAt_inFile "log:"))
  cases ((read?_inFile rfl).trans (congrArg some read_sectionAlone)).symm.trans hraises

/-- A number as a key and a base without digits each come out as another failure; without digits, settings or
the failure of a configuration come out. -/
theorem configured_load_iff_inFile :
    (((inFile "1:").load (some ["c.yaml"])).outcome () .verbose).result = .error otherKey ∧
      (((inFile "0b_").load (some ["c.yaml"])).outcome () .verbose).result = .error noDigits ∧
      Configured (((inFile "log:").load (some ["c.yaml"])).outcome () .verbose).result := by
  obtain ⟨-, hkey, -⟩ := configured_load_iff _ _ .verbose (isDirectory_inFile "1:")
  obtain ⟨-, hbreaks, -⟩ := configured_load_iff _ _ .verbose (isDirectory_inFile "0b_")
  obtain ⟨hiff, -, -⟩ := configured_load_iff _ _ .verbose (isDirectory_inFile "log:")
  refine ⟨(hkey otherKey nofun).mpr (Or.inr (Or.inl ⟨hasOtherKey_numberedKey, rfl⟩)),
    (hbreaks noDigits nofun).mpr (Or.inl breaksOff_noDigits), hiff.mpr ⟨fun f hf => ?_, fun hother => ?_, ?_⟩⟩
  · exact absurd hf (not_breaksOff_sectionAlone f)
  · obtain ⟨found, hfound, hany⟩ := hasOtherKey_iff.mp hother
    rw [← Except.ok.inj (mapM_content_sectionAlone.symm.trans hfound)] at hany
    cases hany
  · rintro f ⟨found, -, -, -, hrefused⟩
    cases hrefused

/-- Neither settings nor the failure of a configuration come out where a number is a key, or where a base is
without digits. -/
theorem not_configured_load_inFile :
    (inFile "1:").files.entryAt (Path.names "c.yaml") = .file "1:" ∧
      ¬Configured (((inFile "1:").load (some ["c.yaml"])).outcome () .verbose).result ∧
      (inFile "0b_").files.entryAt (Path.names "c.yaml") = .file "0b_" ∧
      ¬Configured (((inFile "0b_").load (some ["c.yaml"])).outcome () .verbose).result := by
  have hotherKey : otherKey.kind ≠ .configuration := nofun
  have hnoDigits : noDigits.kind ≠ .configuration := nofun
  have hkey := (load_eq_error_iff (isDirectory_inFile "1:") hotherKey .verbose).mpr
    (Or.inr (Or.inl ⟨hasOtherKey_numberedKey, rfl⟩))
  have hbreaks := (load_eq_error_iff (isDirectory_inFile "0b_") hnoDigits .verbose).mpr
    (Or.inl breaksOff_noDigits)
  exact ⟨rfl, not_configured_of_fault hkey rfl, rfl, not_configured_of_fault hbreaks rfl⟩

end SettingsSources

end QuestionBoard
