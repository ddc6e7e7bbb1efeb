import QuestionBoard.Action
import QuestionBoard.Environment.File
import QuestionBoard.File.Glob
import QuestionBoard.Yaml.Reader

/-!
Loading settings. Files are merged in the order in which they are named, a pattern naming the files
that it finds; over them lie the variables of the file `.env`, and over these those of the
environment. What is still missing has its usual value.

The rules of the libraries that read settings are written out as far as these settings use them: in
`Field.Reader` for values, in `Environment.Variables` for the names of variables, in `EnvironmentFile` for
`.env` and in `Yaml` for documents. What else may turn up while settings are read is not worked out. It is
given with the sources: the reader of YAML, what stops a reader, and what options of the loading change.
-/

namespace QuestionBoard

/-- The failure to compute a number or a time; a text that breaks the grammar has none of its own. -/
def Json.ReadError.failure? : Json.ReadError → Option Failure
  | .malformed => none
  | .integerTooLong digits => some (.integerTooLong digits)
  | .noDigits base =>
    some (.fault .value ("invalid literal for int() with base " ++ decimalDigits base ++ ": ''"))
  | .noSuchTime cause => some (.fault .value cause)
  | .codeTooGreat code =>
    some (if code < Nat.pow 2 31 then .fault .value "chr() arg not in range(0x110000)"
      else .fault .overflow "signed integer is greater than maximum")

/-- Reads a text of the YAML that `Yaml.parse` knows; one that breaks the grammar has no failure of its
own. -/
def Yaml.read (text : String) : Except (Option Failure) Yaml :=
  (Yaml.parse text).mapError Json.ReadError.failure?

def Yaml.ofJson : Json → Yaml
  | .object entries => .mapping (entries.map fun entry => (some entry.1, .scalar entry.2))
  | data => .scalar data

def Json.read (text : String) : Except (Option Failure) Yaml :=
  ((Json.parse text).mapError Json.ReadError.failure?).map Yaml.ofJson

/-- What settings are loaded from. How YAML is read, what stops a reader, and what options of the loading do
is settled outside: a reader may be any. -/
structure SettingsSources where
  files : FileTree := {}
  environment : Variables := []
  readYaml : String → Except (Option Failure) Yaml := Yaml.read
  /-- What is raised when the file at a path, with a text in it, is read, whatever it says: its bytes may be
  no text, or it may go deeper than a reader can follow. -/
  stopped? : String → String → Option Failure := fun _ _ => none
  /-- What the environment and the file `.env` say under options, if these change it. -/
  optioned? : List (Text × Json) → Option (Except Failure (Json × Json)) := fun _ => none

namespace SettingsSources

/-- The name under which the loader writes log lines. -/
def logger : String := "qna.config"

/-- The variable that names a file of settings if no file is named otherwise. -/
def pathVariable : String := "QNA_CONFIG_PATH"

/-- The paths and patterns to load: those that are given, or the one in the environment. -/
def paths (given : Option (List String)) (s : SettingsSources) : List String :=
  match given with
  | some paths => paths
  | none =>
    match (s.environment.lookup pathVariable).join with
    | none | some "" => []
    | some path => [path]

def expand (s : SettingsSources) (path : String) : Action Unit (List String) := do
  if Glob.isPattern path then
    let found := Glob.expand s.files path
    if found.isEmpty then Action.log .warning logger ("No config files match: " ++ path)
    return found.map Path.normal
  else return [Path.normal path]

/-- The text with every line end as a line feed. -/
def unixLines : List Char → List Char
  | '\r' :: '\n' :: rest => '\n' :: unixLines rest
  | '\r' :: rest => '\n' :: unixLines rest
  | c :: rest => c :: unixLines rest
  | [] => []

/-- The reader for an ending, if the ending is known. -/
def reader? (s : SettingsSources) (ending : String) : Option (String → Except (Option Failure) Yaml) :=
  if [".yaml", ".yml"].contains ending then some s.readYaml
  else if ending == ".json" then some Json.read
  else none

/-- A text as it is read by the ending of the path of its file, if the ending is known. -/
def read? (s : SettingsSources) (path text : String) : Option (Except (Option Failure) Yaml) :=
  (s.reader? (lowerCase (Path.suffix (Path.baseName path)))).map fun read =>
    match s.stopped? path text with
    | some f => .error (some f)
    | none => read text

def document (s : SettingsSources) (path text : String) : Except Failure Yaml :=
  match s.read? path text with
  | none =>
    .error (.configuration ("Unsupported config file format: " ++ Path.suffix (Path.baseName path)) (some path) none)
  | some (.ok document) => .ok document
  | some (.error failure) =>
    .error (failure.getD (.configuration ("Cannot parse " ++ path) (some path) none))

/-- The mapping that a document is; nothing if the document is empty. -/
def topLevel (path : String) : Yaml → Except Failure (Option Yaml)
  | .scalar .null => .ok none
  | .mapping entries => .ok (some (.mapping entries))
  | _ => .error (.configuration ("Top level of " ++ path ++ " must be a mapping") (some path) none)

/-- The mapping in the text of a file, with any line ends. -/
def mappingIn (s : SettingsSources) (path text : String) : Except Failure (Option Yaml) := do
  topLevel path (← s.document path (String.ofList (unixLines text.toList)))

/-- The mapping in a file; nothing if the file is missing or empty. -/
def readFile (s : SettingsSources) (path : String) : Action Unit (Option Yaml) := do
  match s.files.entryAt (Path.names path) with
  | .absent | .belowFile =>
    Action.log .warning logger ("Config file not found: " ++ path)
    return none
  | .directory => throw (FileTree.notFile path)
  | .file text =>
    match ← Action.ofExcept (s.mappingIn path text) with
    | none => return none
    | some mapping =>
      Action.log .info logger ("Loaded config file " ++ path)
      return some mapping

/-- The mappings in the files of all paths, in order. -/
def documents (s : SettingsSources) (paths : List String) : Action Unit (List Yaml) := do
  let files := (← paths.mapM s.expand).flatten
  return (← files.mapM s.readFile).filterMap id

/-- The entries of an object for settings, under the names of the fields, which may be written in any
case. -/
def named (data : Json) : Json :=
  match data with
  | .object entries =>
    .object (Settings.fieldNames.filterMap fun field =>
      let written := entries.find? fun entry => entry.1.string?.map lowerCase == some field
      (entries.lookup ↑field <|> written.map Prod.snd).map fun value => (↑field, value))
  | data => data

/-- The entries of an object that are no settings: an underscore begins the name of an option of the
loading. -/
def options : Json → List (Text × Json)
  | .object entries => entries.filter fun entry => entry.1.points.head? == some (.char '_')
  | _ => []

/-- The variables of the file `.env`, with any line ends. -/
def environmentFile (s : SettingsSources) : Variables :=
  match s.files.entryAt [".env"] with
  | .file text => EnvironmentFile.read s.environment (String.ofList (unixLines text.toList))
  | _ => []

/-- What the environment says, and what the file `.env` says. -/
def variableLayers (s : SettingsSources) : Except Failure (Json × Json) := do
  let outer ← s.environment.settings "EnvSettingsSource"
  let inner ← s.environmentFile.settings "DotEnvSettingsSource"
  return (outer, inner)

/-- What both say beside settings in files, which may have options among them. -/
def variableLayersBeside (s : SettingsSources) (given : Json) : Except Failure (Json × Json) :=
  match options given with
  | [] => s.variableLayers
  | options => (s.optioned? options).getD s.variableLayers

/-- The settings as data, with the environment over given ones. -/
def merged (s : SettingsSources) (given : Json) : Except Failure Json :=
  (s.variableLayersBeside given).map fun (outer, inner) => Json.merge (named given) (Json.merge inner outer)

def invalid (violations : List Violation) : Failure :=
  let count := violations.length
  .configuration (decimalDigits count ++ " validation error" ++ (if count = 1 then "" else "s") ++
    " for AppConfig") none (some violations)

/-- The failure of a mapping with a key at its top that is no text. -/
def otherKey : Failure := .fault .type "keywords must be strings"

def settings (documents : List Yaml) (s : SettingsSources) : Except Failure Settings := do
  if documents.any Yaml.hasOtherKeys then throw otherKey
  let data ← s.merged (Json.layered (documents.map Yaml.toJson))
  (Settings.ofData data).toExcept invalid

def load (given : Option (List String)) (s : SettingsSources) : Action Unit Settings := do
  let documents ← s.documents (s.paths given)
  Action.ofExcept (s.settings documents)

end SettingsSources

/-- Settings that are loaded once: the first that could be loaded stay. -/
abbrev SettingsStore := Option Settings

namespace SettingsStore

/-- The settings that stay, loaded if there are none yet. -/
def get (s : SettingsSources) : Action SettingsStore Settings := do
  match ← (MonadState.get : Action SettingsStore SettingsStore) with
  | some settings => return settings
  | none =>
    let settings ← (s.load none).onPart (fun _ => ()) fun _ store => store
    set (some settings)
    return settings

end SettingsStore

end QuestionBoard
