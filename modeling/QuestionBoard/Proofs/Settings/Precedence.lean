import QuestionBoard.Proofs.Settings.Files
import QuestionBoard.Proofs.Settings.Layers

/-!
Which source of settings goes before which. The environment is laid over the file `.env`, and both over
the files of settings; where settings can be read from the outcome, a field has the value of the first
source that has one.
-/

namespace QuestionBoard

namespace Json

/-! ### Paths through objects -/

/-- Whether an object has each of its keys once, and so has every object on the way along a path. -/
def KeyedAlong : List Text → Json → Prop
  | [], _ => True
  | key :: rest, data =>
    (∀ entries, data = .object entries → (entries.map Prod.fst).Nodup) ∧
      ∀ value, data.get? key = some value → KeyedAlong rest value

/-- Whether a path goes through objects as far as there is something on it, and has no object at its
end. -/
def OpenTo : List Text → Json → Prop
  | [], data => data.isObject = false
  | key :: rest, data => data.isObject = true ∧ ∀ value, data.get? key = some value → OpenTo rest value

variable {lower : Option Json} {data upper value : Json} {key : Text} {path : List Text}
  {under above : List (Text × Json)}

theorem keyedAlong_of_isObject_eq_false (h : data.isObject = false) (path : List Text) :
    KeyedAlong path data := by
  cases path with
  | nil => exact trivial
  | cons key rest =>
      refine ⟨fun entries hentries => ?_, fun value hvalue => ?_⟩
      · rw [hentries] at h
        cases h
      · rw [get?_of_isObject_eq_false h] at hvalue
        cases hvalue

theorem Keyed.keyedAlong (h : data.Keyed) (path : List Text) : data.KeyedAlong path := by
  induction path generalizing data with
  | nil => exact trivial
  | cons key rest ih =>
      refine ⟨fun entries hentries => ?_, fun value hvalue => ih (h.get? hvalue)⟩
      subst hentries
      cases h with
      | object nodup _ => exact nodup
      | other h => cases h

theorem nodup_keys_mergedEntries (h : (under.map Prod.fst).Nodup) :
    ((mergedEntries under above).map Prod.fst).Nodup := by
  induction above generalizing under with
  | nil => rwa [mergedEntries]
  | cons entry rest ih =>
      rw [mergedEntries]
      exact ih (nodup_keys_insertEntry _ _ h)

/-- Two objects are merged; in every other case the upper value stands, and the lower one has nothing
under a key if the upper one is an object. -/
theorem laidOver_cases (lower : Option Json) (upper : Json) :
    (∃ under above, lower = some (.object under) ∧ upper = .object above) ∨
      (laidOver lower upper = upper ∧
        (upper.isObject = true → ∀ key, lower.bind (Json.get? key) = none)) := by
  cases upper with
  | object above =>
      cases lower with
      | none => exact Or.inr ⟨rfl, fun _ _ => rfl⟩
      | some data =>
          cases data with
          | object under => exact Or.inl ⟨under, above, rfl, rfl⟩
          | _ => exact Or.inr ⟨rfl, fun _ _ => rfl⟩
  | _ => exact Or.inr ⟨rfl, fun h => (nomatch h)⟩

theorem keyedAlong_laidOver (hlower : ∀ data, lower = some data → data.KeyedAlong path)
    (hupper : upper.KeyedAlong path) : (laidOver lower upper).KeyedAlong path := by
  induction path generalizing lower upper with
  | nil => exact trivial
  | cons key rest ih =>
      obtain ⟨under, above, rfl, rfl⟩ | ⟨hupperStands, -⟩ := laidOver_cases lower upper
      · obtain ⟨hnodup, hunder⟩ := hlower _ rfl
        refine ⟨fun entries hentries => ?_, fun value hvalue => ?_⟩
        · rw [← object.inj hentries]
          exact nodup_keys_mergedEntries (hnodup under rfl)
        · have hvalue : (mergedEntries under above).lookup key = some value := hvalue
          rw [lookup_mergedEntries (hupper.1 above rfl)] at hvalue
          cases hget : above.lookup key with
          | none =>
              rw [hget] at hvalue
              exact hunder value hvalue
          | some inner =>
              rw [hget] at hvalue
              rw [← Option.some.inj hvalue]
              exact ih hunder (hupper.2 inner hget)
      · rw [hupperStands]
        exact hupper

/-- If a path can be followed through a value laid over another, it can be followed through the upper
one, and it leads to what the upper value has there, or else the lower one. -/
theorem at?_laidOver (hkeyed : upper.KeyedAlong path) (hopen : (laidOver lower upper).OpenTo path) :
    upper.OpenTo path ∧ (laidOver lower upper).at? path = (upper.at? path).or (lower.bind (at? path)) := by
  induction path generalizing lower upper with
  | nil =>
      obtain ⟨under, above, rfl, rfl⟩ | ⟨hstands, -⟩ := laidOver_cases lower upper
      · cases hopen
      · rw [hstands] at hopen ⊢
        exact ⟨hopen, rfl⟩
  | cons key rest ih =>
      obtain ⟨under, above, rfl, rfl⟩ | ⟨hstands, hnone⟩ := laidOver_cases lower upper
      · have hmerged := lookup_mergedEntries (hkeyed.1 above rfl) under key
        cases hget : above.lookup key with
        | none =>
            rw [hget] at hmerged
            refine ⟨⟨rfl, fun value hvalue => ?_⟩, ?_⟩
            · cases hget.symm.trans hvalue
            · calc (laidOver (some (.object under)) (.object above)).at? (key :: rest)
                  = (under.lookup key).bind (at? rest) := congrArg (Option.bind · (at? rest)) hmerged
                _ = ((above.lookup key).bind (at? rest)).or ((under.lookup key).bind (at? rest)) := by
                    rw [hget, Option.bind_none, Option.none_or]
        | some inner =>
            rw [hget] at hmerged
            obtain ⟨hinner, hat⟩ := ih (hkeyed.2 inner hget) (hopen.2 _ hmerged)
            refine ⟨⟨rfl, fun value hvalue => ?_⟩, ?_⟩
            · rw [← Option.some.inj (hget.symm.trans hvalue)]
              exact hinner
            · calc (laidOver (some (.object under)) (.object above)).at? (key :: rest)
                  = (laidOver (under.lookup key) inner).at? rest := congrArg (Option.bind · (at? rest)) hmerged
                _ = (inner.at? rest).or ((under.lookup key).bind (at? rest)) := hat
                _ = ((above.lookup key).bind (at? rest)).or ((under.lookup key).bind (at? rest)) := by
                    rw [hget, Option.bind_some]
      · rw [hstands] at hopen ⊢
        have hlower : lower.bind (at? (key :: rest)) = none := by
          cases lower with
          | none => rfl
          | some data => exact congrArg (Option.bind · (at? rest)) (hnone hopen.1 key)
        exact ⟨hopen, by rw [hlower, Option.or_none]⟩

end Json

/-! ### The keys of what variables say -/

namespace Variables

variable {vs : Variables} {source : String}

theorem Section.keyedAlong_named (s : Section) (data : Json) (field : Text) :
    (s.named data).KeyedAlong [field] := by
  cases data with
  | object entries =>
      refine ⟨fun named hnamed => ?_, fun _ _ => trivial⟩
      rw [← Json.object.inj hnamed]
      exact nodup_keys_foldl_insertEntry _ _ entries List.nodup_nil
  | _ => exact Json.keyedAlong_of_isObject_eq_false rfl [field]

theorem Section.keyedAlong_ofVariables {s : Section} {data : Json}
    (h : s.ofVariables source vs = .ok (some data)) (field : Text) : data.KeyedAlong [field] := by
  unfold Section.ofVariables at h
  dsimp only at h
  split at h
  · split at h
    · cases h
    · rw [← Option.some.inj (Except.ok.inj h)]
      exact s.keyedAlong_named _ field
  · split at h
    · cases h
    · rw [← Option.some.inj (Except.ok.inj h)]
      exact s.keyedAlong_named _ field
    · next data' hnull hobject hparse =>
        rw [← Option.some.inj (Except.ok.inj h)]
        refine Json.keyedAlong_of_isObject_eq_false ?_ [field]
        cases data' with
        | object entries => exact absurd rfl (hobject entries)
        | _ => rfl
    · split at h
      · cases h
      · rw [← Option.some.inj (Except.ok.inj h)]
        exact Json.keyedAlong_of_isObject_eq_false rfl [field]

/-- What is found for some sections comes from them, in their order. -/
theorem sections_found {ss : List Section} {found : List (Text × Json)}
    (h : (ss.filterMapM fun s => do
      return (← s.ofVariables source vs).map fun data => (Text.plain s.name, data)) = .ok found) :
    (found.map Prod.fst).Sublist (ss.map fun s => .plain s.name) ∧
      ∀ entry ∈ found, ∀ field, entry.2.KeyedAlong [field] := by
  induction ss generalizing found with
  | nil =>
      rw [List.filterMapM_nil] at h
      rw [← Except.ok.inj h]
      exact ⟨List.Sublist.refl _, by simp⟩
  | cons s rest ih =>
      rw [List.filterMapM_cons] at h
      cases hs : s.ofVariables source vs with
      | error f =>
          rw [hs] at h
          cases h
      | ok said =>
          rw [hs] at h
          cases hrest : (rest.filterMapM fun s => do
              return (← s.ofVariables source vs).map fun data => (Text.plain s.name, data)) with
          | error f =>
              rw [hrest] at h
              cases said <;> cases h
          | ok others =>
              rw [hrest] at h
              obtain ⟨hnames, hkeyed⟩ := ih hrest
              cases said with
              | none =>
                  rw [← Except.ok.inj h]
                  exact ⟨hnames.cons _, hkeyed⟩
              | some data =>
                  rw [← Except.ok.inj h]
                  refine ⟨hnames.cons_cons _, fun entry hentry => ?_⟩
                  obtain rfl | hentry := List.mem_cons.mp hentry
                  · exact s.keyedAlong_ofVariables hs
                  · exact hkeyed entry hentry

/-- Variables say an object, which has each section and each field of a section once. -/
theorem keyedAlong_settings {data : Json} (h : vs.settings source = .ok data) (key field : Text) :
    data.isObject = true ∧ data.KeyedAlong [key, field] := by
  unfold Variables.settings at h
  dsimp only at h
  cases hfound : (sections.filterMapM fun s => do
      return (← s.ofVariables source vs.lowered).map fun data => (Text.plain s.name, data)) with
  | error f =>
      rw [hfound] at h
      cases h
  | ok found =>
      rw [hfound] at h
      obtain ⟨hnames, hkeyed⟩ := sections_found hfound
      obtain ⟨name, hdata, hname⟩ : ∃ name, Json.object (name ++ found) = data ∧
          (name = [] ∨ ∃ text, name = [(Text.plain "service_name", Json.text text)]) := by
        split at h
        · exact ⟨_, Except.ok.inj h, Or.inr ⟨_, rfl⟩⟩
        · exact ⟨_, Except.ok.inj h, Or.inl rfl⟩
      have hservice : (name.map Prod.fst).Sublist [Text.plain "service_name"] := by
        obtain rfl | ⟨text, rfl⟩ := hname
        · exact List.nil_sublist _
        · exact List.Sublist.refl _
      subst hdata
      refine ⟨rfl, fun entries hentries => ?_, fun value hvalue => ?_⟩
      · rw [← Json.object.inj hentries, List.map_append]
        have hall : (Text.plain "service_name" :: sections.map fun s => .plain s.name).Nodup := by decide
        exact hall.sublist (hservice.append hnames)
      · obtain hmem | hmem := List.mem_append.mp (mem_of_lookup hvalue)
        · obtain rfl | ⟨text, rfl⟩ := hname
          · cases hmem
          · obtain ⟨-, rfl⟩ := Prod.mk.inj (List.mem_singleton.mp hmem)
            exact Json.keyedAlong_of_isObject_eq_false rfl [field]
        · exact hkeyed _ hmem field

end Variables

/-! ### The first source that says something -/

/-- Whether a value is read from what the first of some sources that has anything at the end of a path
has there, or is the usual one if no source has anything. -/
def Field.Prevails {α : Type} (read : Field.Reader α) (path : List Text) (usual : α)
    (sources : List Json) (value : α) : Prop :=
  match sources.findSome? (Json.at? path) with
  | none => value = usual
  | some data => read data = .valid value

namespace Field

variable {α : Type} {key : String} {read : Field.Reader α} {usual value : α} {data : Json}

theorem isObject_eq_false_of_text {name : Text} (h : Field.text data = .valid name) : data.isObject = false := by
  cases data with
  | text s => rfl
  | _ => cases h

theorem isObject_eq_false_of_int {n : Int} (h : Field.int data = .valid n) : data.isObject = false := by
  cases data with
  | object entries => cases h
  | _ => rfl

/-- A field that is read from an object is what the object has there. -/
theorem prevails_of_ofKey (hread : ∀ data value, read data = .valid value → data.isObject = false)
    (hobject : data.isObject = true) (h : ofKey key read usual data = .valid value) :
    data.OpenTo [key] ∧ Prevails read [key] usual [data] value := by
  have h := ofKey_eq_valid_iff.mp h
  cases hget : data.get? key with
  | none =>
      rw [hget] at h
      refine ⟨⟨hobject, fun inner hinner => ?_⟩, ?_⟩
      · rw [hget] at hinner
        cases hinner
      · simpa [Prevails, Json.at?, hget] using h
  | some inner =>
      rw [hget] at h
      refine ⟨⟨hobject, fun inner' hinner => ?_⟩, ?_⟩
      · rw [← Option.some.inj (hget.symm.trans hinner)]
        exact hread inner value h
      · simpa [Prevails, Json.at?, hget] using h

end Field

/-- What the section of the server is read as. -/
theorem ServerSettings.prevails_of_ofData {data : Json} {server : ServerSettings}
    (h : ServerSettings.ofData data = .valid server) :
    (data.OpenTo ["host"] ∧
        Field.Prevails Field.text ["host"] ({} : ServerSettings).host [data] server.host) ∧
      data.OpenTo ["port"] ∧
        Field.Prevails Field.int ["port"] ({} : ServerSettings).port [data] server.port := by
  obtain ⟨entries, rfl, hread⟩ := Field.exists_object_of_sectionOf h
  obtain ⟨_, port, hmk, hport, rfl⟩ := Checked.seq_eq_valid_iff.mp hread
  obtain ⟨host, hhost, rfl⟩ := Checked.map_eq_valid_iff.mp hmk
  exact ⟨Field.prevails_of_ofKey (fun _ _ => Field.isObject_eq_false_of_text) rfl hhost,
    Field.prevails_of_ofKey (fun _ _ => Field.isObject_eq_false_of_int) rfl hport⟩

namespace Settings

variable {data : Json} {settings : Settings}

theorem ofKey_server (h : Settings.ofData data = .valid settings) :
    Field.ofKey "server" ServerSettings.ofData ({} : Settings).server data = .valid settings.server := by
  obtain ⟨_, answer, hanswer, -, rfl⟩ := Checked.seq_eq_valid_iff.mp h
  obtain ⟨_, cache, hcache, -, rfl⟩ := Checked.seq_eq_valid_iff.mp hanswer
  obtain ⟨_, db, hdb, -, rfl⟩ := Checked.seq_eq_valid_iff.mp hcache
  obtain ⟨_, log, hlog, -, rfl⟩ := Checked.seq_eq_valid_iff.mp hdb
  obtain ⟨_, server, hname, hserver, rfl⟩ := Checked.seq_eq_valid_iff.mp hlog
  obtain ⟨serviceName, -, rfl⟩ := Checked.map_eq_valid_iff.mp hname
  exact hserver

/-- Settings that are read from an object have the address that the object has. -/
theorem prevails_of_ofData (hobject : data.isObject = true) (h : Settings.ofData data = .valid settings) :
    (data.OpenTo ["server", "host"] ∧ Field.Prevails Field.text ["server", "host"]
        ({} : ServerSettings).host [data] settings.server.host) ∧
      data.OpenTo ["server", "port"] ∧ Field.Prevails Field.int ["server", "port"]
        ({} : ServerSettings).port [data] settings.server.port := by
  have hserver := Field.ofKey_eq_valid_iff.mp (ofKey_server h)
  have hat : ∀ field : Text, data.at? ["server", field] = (data.get? "server").bind (Json.at? [field]) :=
    fun _ => rfl
  unfold Field.Prevails
  rw [List.findSome?_singleton, List.findSome?_singleton, hat, hat]
  cases hget : data.get? "server" with
  | none =>
      rw [hget] at hserver
      have hopen : ∀ field : Text, data.OpenTo ["server", field] := fun field =>
        ⟨hobject, fun value hvalue => by rw [hget] at hvalue; cases hvalue⟩
      rw [hserver]
      exact ⟨⟨hopen "host", rfl⟩, hopen "port", rfl⟩
  | some inner =>
      rw [hget] at hserver
      have hopen : ∀ field : Text, inner.OpenTo [field] → data.OpenTo ["server", field] := fun field hinner =>
        ⟨hobject, fun value hvalue => by rwa [← Option.some.inj (hget.symm.trans hvalue)]⟩
      obtain ⟨⟨hhostOpen, hhost⟩, hportOpen, hport⟩ := ServerSettings.prevails_of_ofData hserver
      unfold Field.Prevails at hhost hport
      rw [List.findSome?_singleton] at hhost hport
      exact ⟨⟨hopen "host" hhostOpen, hhost⟩, hopen "port" hportOpen, hport⟩

end Settings

namespace SettingsSources

variable {s : SettingsSources} {documents : List Yaml} {data : Json}

/-- Whether what is said under options are objects that have each of their keys once. -/
def OptionsKeyed (s : SettingsSources) : Prop :=
  ∀ options outer inner, s.optioned? options = some (.ok (outer, inner)) → outer.IsMapping ∧ inner.IsMapping

/-- What each source says of the settings, one that goes before another standing before it: the
environment, the file `.env` and the documents in files of settings. -/
def layers (s : SettingsSources) (documents : List Yaml) : Except Failure (List Json) :=
  (s.variableLayersBeside (Json.layered (documents.map Yaml.toJson))).map fun said =>
    [said.1, said.2, named (Json.layered (documents.map Yaml.toJson))]

theorem keyedAlong_variableLayers {said : Json × Json} (h : s.variableLayers = .ok said) (key field : Text) :
    said.1.isObject = true ∧ said.1.KeyedAlong [key, field] ∧ said.2.KeyedAlong [key, field] := by
  obtain ⟨outer, houter, h⟩ := ok_of_bind h
  obtain ⟨inner, hinner, h⟩ := ok_of_bind h
  obtain ⟨hobject, houterKeyed⟩ := Variables.keyedAlong_settings houter key field
  obtain ⟨-, hinnerKeyed⟩ := Variables.keyedAlong_settings hinner key field
  rw [← Except.ok.inj h]
  exact ⟨hobject, houterKeyed, hinnerKeyed⟩

/-- Also beside options, the environment says an object, and each of its sources has each key once. -/
theorem keyedAlong_variableLayersBeside (hoptions : s.OptionsKeyed) {given : Json} {said : Json × Json}
    (h : s.variableLayersBeside given = .ok said) (key field : Text) :
    said.1.isObject = true ∧ said.1.KeyedAlong [key, field] ∧ said.2.KeyedAlong [key, field] := by
  unfold variableLayersBeside at h
  generalize options given = options at h
  cases options with
  | nil => exact keyedAlong_variableLayers h key field
  | cons option rest =>
      change (s.optioned? (option :: rest)).getD s.variableLayers = .ok said at h
      cases hoptioned : s.optioned? (option :: rest) with
      | none =>
          rw [hoptioned] at h
          exact keyedAlong_variableLayers h key field
      | some result =>
          rw [hoptioned] at h
          obtain ⟨outer, inner⟩ := said
          obtain ⟨houter, hinner⟩ := hoptions _ outer inner (hoptioned.trans (congrArg some h))
          exact ⟨houter.isObject, houter.keyed.keyedAlong _, hinner.keyed.keyedAlong _⟩

/-- Where the merged sources are open to a field of a section, the first source that has the field
settles it. -/
theorem at?_merged (hoptions : s.OptionsKeyed) (h : s.merged (Json.layered (documents.map Yaml.toJson)) = .ok data) :
    ∃ layers, s.layers documents = .ok layers ∧ data.isObject = true ∧
      ∀ key field, data.OpenTo [key, field] →
        data.at? [key, field] = layers.findSome? (Json.at? [key, field]) := by
  obtain ⟨⟨outer, inner⟩, hsaid, rfl⟩ := ok_of_map h
  have hlayers : s.layers documents =
      .ok [outer, inner, named (Json.layered (documents.map Yaml.toJson))] := by
    unfold layers
    rw [hsaid]
    rfl
  have hupper : (Json.merge inner outer).isObject = true :=
    Json.isObject_laidOver _ (keyedAlong_variableLayersBeside hoptions hsaid "" "").1
  refine ⟨_, hlayers, Json.isObject_laidOver _ hupper, fun key field hopen => ?_⟩
  obtain ⟨-, houterKeyed, hinnerKeyed⟩ := keyedAlong_variableLayersBeside hoptions hsaid key field
  have hupperKeyed : (Json.merge inner outer).KeyedAlong [key, field] :=
    Json.keyedAlong_laidOver (fun data hdata => Option.some.inj hdata ▸ hinnerKeyed) houterKeyed
  obtain ⟨hupperOpen, hfiles⟩ := Json.at?_laidOver hupperKeyed hopen
  obtain ⟨-, hvariables⟩ := Json.at?_laidOver houterKeyed hupperOpen
  have hfirst : ∀ (data : Json) (sources : List Json),
      (data :: sources).findSome? (Json.at? [key, field]) =
        (data.at? [key, field]).or (sources.findSome? (Json.at? [key, field])) := by
    intro data sources
    rw [List.findSome?_cons]
    cases data.at? [key, field] <;> rfl
  show (Json.laidOver _ (Json.merge inner outer)).at? [key, field] = _
  rw [hfiles, Json.merge, hvariables, Option.bind_some, Option.bind_some, Option.or_assoc,
    hfirst, hfirst, List.findSome?_singleton]

/-- Loaded settings have the address of the first source that has one. -/
theorem prevails_of_load {given : Option (List String)} {settings : Settings} {j : Journal}
    (hoptions : s.OptionsKeyed) (h : ((s.load given).outcome () j).result = .ok settings) :
    ∃ documents layers, ((s.documents (s.paths given)).outcome () j).result = .ok documents ∧
      s.layers documents = .ok layers ∧
      Field.Prevails Field.text ["server", "host"] ({} : ServerSettings).host layers settings.server.host ∧
      Field.Prevails Field.int ["server", "port"] ({} : ServerSettings).port layers settings.server.port := by
  unfold load at h
  rw [Action.outcome_bind] at h
  generalize hdocuments : (s.documents (s.paths given)).outcome () j = o at h
  obtain ⟨_ | documents, _, j'⟩ := o
  · cases h
  · rw [Action.andThen_ok, Action.outcome_ofExcept] at h
    obtain ⟨-, data, hmerged, hread⟩ := settings_eq_ok_iff.mp h
    obtain ⟨layers, hlayers, hobject, hat⟩ := at?_merged hoptions hmerged
    obtain ⟨⟨hhostOpen, hhost⟩, hportOpen, hport⟩ := Settings.prevails_of_ofData hobject hread
    unfold Field.Prevails at hhost hport
    rw [List.findSome?_singleton] at hhost hport
    rw [hat _ _ hhostOpen] at hhost
    rw [hat _ _ hportOpen] at hport
    exact ⟨documents, layers, rfl, hlayers, hhost, hport⟩

end SettingsSources

end QuestionBoard
