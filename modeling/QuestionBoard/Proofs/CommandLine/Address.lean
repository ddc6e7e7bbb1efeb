import QuestionBoard.CommandLine.Server
import QuestionBoard.Proofs.Board.Start
import QuestionBoard.Proofs.Settings.Precedence

/-!
The address at which the program starts the server. Among the environment, the file `.env`, the files of
settings and what is usual, the first that has a host settles the host, and so it is with the port. What
the command line says goes before all of them, unless it is an empty host or port 0: these are
overlooked.
-/

namespace QuestionBoard

open QuestionBoard.Field (Prevails)

/-- Whether a server is started at the host and the port of the first of some sources that has one. -/
structure ServerStart.Follows (start : ServerStart) (sources : List Json) : Prop where
  host : Prevails Field.text ["server", "host"] ({} : ServerSettings).host sources start.host
  port : Prevails Field.int ["server", "port"] ({} : ServerSettings).port sources start.port

section Prevails

variable {α : Type} {read : Field.Reader α} {path : List Text} {usual value below : α}
  {source considered data : Json} {layers : List Json}

theorem prevails_cons_of_none (h : source.at? path = none) :
    Prevails read path usual (source :: layers) value ↔ Prevails read path usual layers value := by
  unfold Prevails
  rw [List.findSome?_cons, h]

theorem prevails_cons_of_some (h : source.at? path = some data) :
    Prevails read path usual (source :: layers) value ↔ read data = .valid value := by
  unfold Prevails
  rw [List.findSome?_cons, h]

/-- A value that is given stands over another one, unless it counts as none. It is then what the first
source says once such a value is taken away from the uppermost one; with that value it is so exactly if
it stands by itself. -/
theorem prevails_over [DecidableEq α] {unset : α} {given : Option α} {code : α → Json}
    (hcode : ∀ v, read (code v) = .valid v) (hsource : source.at? path = given.map code)
    (hconsidered : considered.at? path = (given.filter (· ≠ unset)).map code)
    (hbelow : Prevails read path usual layers below)
    (hvalue : value = (given.filter (· ≠ unset)).getD below) :
    Prevails read path usual (considered :: layers) value ∧
      (Prevails read path usual (source :: layers) value ↔ ¬(given = some unset ∧ value ≠ unset)) := by
  cases given with
  | none =>
      subst hvalue
      refine ⟨(prevails_cons_of_none hconsidered).mpr hbelow, ?_⟩
      rw [prevails_cons_of_none hsource]
      exact ⟨fun _ h => (nomatch h.1), fun _ => hbelow⟩
  | some v =>
      rw [prevails_cons_of_some hsource, hcode]
      by_cases hv : v = unset
      · rw [Option.filter_some, if_neg (by simpa using hv)] at hconsidered hvalue
        subst hvalue
        refine ⟨(prevails_cons_of_none hconsidered).mpr hbelow, ?_⟩
        rw [hv]
        exact ⟨fun heq h => h.2 (Checked.valid.inj heq).symm,
          fun h => congrArg Checked.valid (of_not_not fun hne => h ⟨rfl, Ne.symm hne⟩)⟩
      · rw [Option.filter_some, if_pos (by simpa using hv)] at hconsidered hvalue
        subst hvalue
        refine ⟨(prevails_cons_of_some hconsidered).mpr (hcode _), ?_⟩
        exact ⟨fun _ h => hv (Option.some.inj h.1), fun _ => rfl⟩

end Prevails

namespace ServerArguments

variable (a : ServerArguments)

/-- What the command line says of the settings, as a source of them. -/
def layer : Json :=
  let host : List (Text × Json) := match a.host with
    | some host => [("host", .text host)]
    | none => []
  let port : List (Text × Json) := match a.port with
    | some port => [("port", .int port)]
    | none => []
  .object [("server", .object (host ++ port))]

/-- The host that the command line gives, as a text. -/
def hostText? : Option Text := a.host.map .plain

/-- Whether the server is started elsewhere than at the empty host or the port 0 that the command line
gives. -/
def Overlooks (start : ServerStart) : Prop :=
  a.host = some "" ∧ start.host ≠ "" ∨ a.port = some 0 ∧ start.port ≠ 0

/-- The command line without an empty host and without port 0. -/
def considered : ServerArguments :=
  { a with host := a.host.filter (· ≠ ""), port := a.port.filter (· ≠ 0) }

theorem at?_layer_host : a.layer.at? ["server", "host"] = a.hostText?.map Json.text := by
  obtain ⟨_, _ | host, _ | port, _⟩ := a <;> rfl

theorem at?_layer_port : a.layer.at? ["server", "port"] = a.port.map Json.int := by
  obtain ⟨_, _ | host, _ | port, _⟩ := a <;> rfl

theorem hostText?_considered : a.considered.hostText? = a.hostText?.filter (· ≠ .plain "") := by
  unfold hostText? considered
  cases a.host with
  | none => rfl
  | some host => by_cases h : host = "" <;> simp [Option.filter_some, h]

theorem hostOver_eq (s : Settings) : a.hostOver s = (a.hostText?.filter (· ≠ .plain "")).getD s.server.host := by
  unfold hostOver hostText?
  split
  · next h => rw [h]; rfl
  · next h => rw [h]; rfl
  · next host hne h =>
      rw [h, Option.map_some, Option.filter_some, if_pos (by simpa using hne), Option.getD_some]

theorem portOver_eq (s : Settings) : a.portOver s = (a.port.filter (· ≠ 0)).getD s.server.port := by
  unfold portOver
  split
  · next h => rw [h, Option.filter_none, Option.getD_none]
  · next h => rw [h]; rfl
  · next port hne h =>
      rw [h, Option.filter_some, if_pos (by simpa using hne), Option.getD_some]

/-- The server is started where the first source says, the command line among them as far as it is
considered. -/
theorem follows_startOver {layers : List Json} {settings : Settings}
    (hhost : Prevails Field.text ["server", "host"] ({} : ServerSettings).host layers settings.server.host)
    (hport : Prevails Field.int ["server", "port"] ({} : ServerSettings).port layers settings.server.port) :
    ((a.startOver settings).Follows (a.layer :: layers) ↔ ¬a.Overlooks (a.startOver settings)) ∧
      (a.startOver settings).Follows (a.considered.layer :: layers) := by
  have htext : ∀ host, Field.text (.text host) = .valid host := fun _ => rfl
  have hconsidered : a.considered.layer.at? ["server", "host"] =
      (a.hostText?.filter (· ≠ .plain "")).map Json.text := by
    rw [at?_layer_host, hostText?_considered]
  have hempty : a.hostText? = some (.plain "") ↔ a.host = some "" := by
    rw [hostText?, Option.map_eq_some_iff]
    simp
  have hint : ∀ n, Field.int (.int n) = .valid n := fun _ => rfl
  obtain ⟨hhostConsidered, hhostFollows⟩ := prevails_over htext a.at?_layer_host
    hconsidered hhost (a.hostOver_eq settings)
  obtain ⟨hportConsidered, hportFollows⟩ := prevails_over hint a.at?_layer_port
    a.considered.at?_layer_port hport (a.portOver_eq settings)
  refine ⟨?_, hhostConsidered, hportConsidered⟩
  rw [hempty] at hhostFollows
  unfold Overlooks
  rw [not_or]
  exact ⟨fun h => ⟨hhostFollows.mp h.host, hportFollows.mp h.port⟩,
    fun h => ⟨hhostFollows.mpr h.1, hportFollows.mpr h.2⟩⟩

end ServerArguments

namespace ServerProgram

open ServerArguments (grammar)

variable {φ : Type} [FileSystem φ]

theorem started_of_serve {listen : ServerStart → Action (Log.Logger φ) Unit} {settings : Settings}
    {a : ServerArguments} {logger : Log.Logger φ} {j : Journal} {o : ProgramOutcome} {start : ServerStart}
    (hserve : ((serve listen settings a).outcome logger j).result = .ok o) (hstart : o.started = some start) :
    start = a.startOver settings := by
  unfold serve at hserve
  rw [Action.outcome_bind] at hserve
  generalize settings.log.apply.outcome logger j = configured at hserve
  obtain ⟨_ | _, logger', j'⟩ := configured
  · cases hserve
  · rw [Action.andThen_ok, Action.outcome_bind, Action.outcome_log, Action.andThen_ok, Action.outcome_bind,
      Action.outcome_attempt, Action.andThen_ok] at hserve
    split at hserve
    · cases hserve
      exact (Option.some.inj hstart).symm
    · cases hserve
      exact (Option.some.inj hstart).symm

/-- A server that is started is started by settings that were loaded. -/
theorem exists_load_of_started {listen : ServerStart → Action (Log.Logger φ) Unit} {s : SettingsSources}
    {arguments : List String} {logger : Log.Logger φ} {j : Journal} {o : ProgramOutcome} {start : ServerStart}
    (hrun : ((run listen s arguments).outcome logger j).result = .ok o) (hstart : o.started = some start) :
    ∃ a settings, grammar.read {} arguments = .accepted a ∧
      ((s.load a.configs).outcome () j).result = .ok settings ∧ start = a.startOver settings := by
  unfold run at hrun
  split at hrun
  · next a hread =>
      refine ⟨a, ?_⟩
      unfold perform at hrun
      rw [Action.outcome_bind, Action.outcome_attempt, Action.andThen_ok, SettingsSources.loadBeside,
        Action.outcome_onPart] at hrun
      dsimp only at hrun
      cases hload : ((s.load a.configs).outcome () j).result with
      | error f =>
          rw [hload] at hrun
          dsimp only at hrun
          split at hrun
          · cases hrun
            cases hstart
          · cases hrun
      | ok settings =>
          rw [hload] at hrun
          dsimp only at hrun
          split at hrun
          · cases hrun
            cases hstart
          · exact ⟨settings, hread, rfl, started_of_serve hrun hstart⟩
  · cases hrun
    cases hstart
  · cases hrun
    cases hstart
  · cases hrun
    cases hstart

/-- A program that can load settings prints or serves them. -/
theorem outcome_run_of_load {listen : ServerStart → Action (Log.Logger φ) Unit} {s : SettingsSources}
    {arguments : List String} {a : ServerArguments} {settings : Settings} (logger : Log.Logger φ) {j : Journal}
    (hread : grammar.read {} arguments = .accepted a)
    (hload : ((s.load a.configs).outcome () j).result = .ok settings) :
    (run listen s arguments).outcome logger j =
      (if a.printsSettings then pure { output := printed settings } else serve listen settings a).outcome logger
        ((s.load a.configs).outcome () j).journal := by
  unfold run
  rw [hread]
  show (perform listen s a).outcome logger j = _
  unfold perform
  rw [Action.outcome_bind, Action.outcome_attempt, Action.andThen_ok, SettingsSources.loadBeside,
    Action.outcome_onPart]
  dsimp only
  rw [hload]

/-- A program that does not print its settings starts a server if it can load settings and configure the
logger. -/
theorem exists_started {listen : ServerStart → Action (Log.Logger φ) Unit} {s : SettingsSources}
    {arguments : List String} {logger : Log.Logger φ} {j : Journal} {a : ServerArguments} {settings : Settings}
    (hread : grammar.read {} arguments = .accepted a) (hserves : a.printsSettings = false)
    (hload : ((s.load a.configs).outcome () j).result = .ok settings)
    (hlog : ∀ l j', ((settings.log.apply : Action (Log.Logger φ) Unit).outcome l j').result = .ok ()) :
    ∃ o, ((run listen s arguments).outcome logger j).result = .ok o ∧
      o.started = some (a.startOver settings) := by
  rw [outcome_run_of_load logger hread hload, hserves]
  show ∃ o, ((serve listen settings a).outcome logger _).result = .ok o ∧ _
  unfold serve
  generalize ((s.load a.configs).outcome () j).journal = j'
  have hconfigured := hlog logger j'
  rw [Action.outcome_bind]
  revert hconfigured
  generalize settings.log.apply.outcome logger j' = configured
  obtain ⟨_, logger', j''⟩ := configured
  rintro rfl
  rw [Action.andThen_ok, Action.outcome_bind, Action.outcome_log, Action.andThen_ok, Action.outcome_bind,
    Action.outcome_attempt, Action.andThen_ok]
  split
  · exact ⟨_, rfl, rfl⟩
  · exact ⟨_, rfl, rfl⟩

/-- The host and the port at which a server is started are those of the first source that has one, among
the command line, the environment, the file `.env` and the files of settings, exactly if the command line
gives no empty host and no port 0 that is overlooked; and they always are, once these are taken away from
the command line. Options in the files may change what the environment and the file `.env` say, to objects
that have each key once. -/
theorem follows_iff_not_overlooks (listen : ServerStart → Action (Log.Logger φ) Unit) (s : SettingsSources)
    (arguments : List String) (logger : Log.Logger φ) (j : Journal) {o : ProgramOutcome} {start : ServerStart}
    (hoptions : s.OptionsKeyed) (hrun : ((run listen s arguments).outcome logger j).result = .ok o)
    (hstart : o.started = some start) :
    ∃ a documents layers, grammar.read {} arguments = .accepted a ∧
      ((s.documents (s.paths a.configs)).outcome () j).result = .ok documents ∧
      s.layers documents = .ok layers ∧
      (start.Follows (a.layer :: layers) ↔ ¬a.Overlooks start) ∧
      start.Follows (a.considered.layer :: layers) := by
  obtain ⟨a, settings, hread, hload, rfl⟩ := exists_load_of_started hrun hstart
  obtain ⟨documents, layers, hdocuments, hlayers, hhost, hport⟩ := SettingsSources.prevails_of_load hoptions hload
  exact ⟨a, documents, layers, hread, hdocuments, hlayers, a.follows_startOver hhost hport⟩

/-- The logger can be configured as it usually is. -/
theorem result_apply_usual (l : Log.Logger φ) (j : Journal) :
    ((({} : LogSettings).apply : Action (Log.Logger φ) Unit).outcome l j).result = .ok () := by
  refine (LogSettings.result_apply_eq_ok_iff {} l j).mpr fun path f hpath => ?_
  cases hpath

def portInEnvironment : SettingsSources := { environment := [("QNA_SERVER__PORT", some "9000")] }

def environmentLayer : Json := .object [("server", .object [("port", .text "9000")])]

/-- What the environment says of a section, read by names in lower case. -/
theorem fieldsOf_portInEnvironment {name : String} (hname : name ∈ ["server", "log", "db", "cache", "answer"]) :
    Variables.fieldsOf name [("qna_server__port", some "9000")] =
      .object (if name = "server" then [("port", .text "9000")] else []) := by
  have hstart : ∀ name ∈ ["server", "log", "db", "cache", "answer"], "qna_server__port".startsWith
      (Variables.start ++ name ++ Variables.delimiter) = decide (name = "server") := by decide +kernel
  simp only [Variables.fieldsOf, List.foldl_cons, List.foldl_nil, hstart name hname]
  simp only [List.mem_cons, List.not_mem_nil, or_false] at hname
  rcases hname with rfl | rfl | rfl | rfl | rfl <;> rfl

theorem settings_portInEnvironment :
    portInEnvironment.environment.settings "EnvSettingsSource" = .ok environmentLayer := by
  have hlowered : portInEnvironment.environment.lowered = [("qna_server__port", some "9000")] := by
    decide +kernel
  have hsection : ∀ s ∈ Variables.sections,
      s.ofVariables "EnvSettingsSource" [("qna_server__port", some "9000")] =
        .ok (if s.name = "server" then some (.object [("port", .text "9000")]) else none) := by
    intro s hs
    have hname : s.name ∈ ["server", "log", "db", "cache", "answer"] := List.mem_map_of_mem hs
    simp only [Variables.Section.ofVariables, fieldsOf_portInEnvironment hname]
    simp only [Variables.sections, List.mem_cons, List.not_mem_nil, or_false] at hs
    rcases hs with rfl | rfl | rfl | rfl | rfl <;> rfl
  rw [Variables.settings, hlowered]
  simp only [Variables.sections, List.forall_mem_cons] at hsection
  simp only [Variables.sections, List.filterMapM_cons, List.filterMapM_nil, hsection]
  rfl

theorem merged_portInEnvironment : portInEnvironment.layers [] = .ok [environmentLayer, .object [], .object []] ∧
    portInEnvironment.merged (.object []) = .ok environmentLayer := by
  have hinner : portInEnvironment.environmentFile.settings "DotEnvSettingsSource" = .ok (.object []) := rfl
  have hvariables : portInEnvironment.variableLayers = .ok (environmentLayer, .object []) := by
    unfold SettingsSources.variableLayers
    rw [settings_portInEnvironment, hinner]
    rfl
  have hbeside :
      portInEnvironment.variableLayersBeside (.object []) = .ok (environmentLayer, .object []) := hvariables
  have hfiles : Json.layered (([] : List Yaml).map Yaml.toJson) = .object [] := rfl
  unfold SettingsSources.layers SettingsSources.merged
  rw [hfiles, hbeside]
  exact ⟨rfl, rfl⟩

theorem load_portInEnvironment (j : Journal) :
    ((portInEnvironment.load none).outcome () j).result = .ok { server := { port := 9000 } } := by
  have hdocuments : (portInEnvironment.documents (SettingsSources.paths none portInEnvironment)).outcome () j =
      ⟨.ok [], (), j⟩ := rfl
  unfold SettingsSources.load
  rw [Action.outcome_bind, hdocuments, Action.andThen_ok, Action.outcome_ofExcept]
  show (do
    let data ← portInEnvironment.merged (.object [])
    (Settings.ofData data).toExcept SettingsSources.invalid) = _
  rw [merged_portInEnvironment.2]
  rfl

/-- A run of a server that listens without failing. -/
def runOf (arguments : List String) : Action.Outcome (Log.Logger FileTree) ProgramOutcome :=
  (run (fun _ => pure ()) portInEnvironment arguments).outcome { name := "qna", files := {} } .verbose

theorem exists_started_portZero : ∃ o, (runOf ["--port", "0"]).result = .ok o ∧
    o.started = some ⟨"0.0.0.0", 9000, "info"⟩ := by
  have hread : grammar.read {} ["--port", "0"] = .accepted { port := some 0 } := rfl
  exact exists_started hread rfl (load_portInEnvironment .verbose) fun l j => result_apply_usual l j

/-- The port of the environment is that of the first source without the command line. -/
theorem follows_portZero : ∃ o start, (runOf ["--port", "0"]).result = .ok o ∧ o.started = some start ∧
    ∃ a documents layers, grammar.read {} ["--port", "0"] = .accepted a ∧
      portInEnvironment.layers documents = .ok layers ∧ start.Follows (a.considered.layer :: layers) ∧
      start.port = 9000 := by
  obtain ⟨o, hrun, hstarted⟩ := exists_started_portZero
  obtain ⟨a, documents, layers, hread, -, hlayers, -, hfollows⟩ :=
    follows_iff_not_overlooks (fun _ => pure ()) portInEnvironment ["--port", "0"] _ _
      (fun _ _ _ h => (nomatch h)) hrun hstarted
  exact ⟨o, _, hrun, hstarted, a, documents, layers, hread, hlayers, hfollows, rfl⟩

/-- Port 0 on the command line is overlooked: the server is started at the port of the environment. -/
theorem not_follows_portZero : ∃ o start, (runOf ["--port", "0"]).result = .ok o ∧ o.started = some start ∧
    grammar.read {} ["--port", "0"] = .accepted { port := some 0 } ∧
    portInEnvironment.layers [] = .ok [environmentLayer, .object [], .object []] ∧
    ¬start.Follows (({ port := some 0 } : ServerArguments).layer :: [environmentLayer, .object [], .object []]) := by
  obtain ⟨o, hrun, hstarted⟩ := exists_started_portZero
  refine ⟨o, _, hrun, hstarted, rfl, merged_portInEnvironment.1, fun hfollows => ?_⟩
  have hport : Checked.valid (0 : Int) = .valid 9000 := hfollows.port
  cases hport

end ServerProgram

end QuestionBoard
