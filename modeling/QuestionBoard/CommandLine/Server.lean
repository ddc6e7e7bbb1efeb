import QuestionBoard.Board.Lifecycle
import QuestionBoard.CommandLine.Grammar
import QuestionBoard.CommandLine.Outcome
import QuestionBoard.Json.Writer

/-!
The program that runs the board. It loads the settings and serves them, or prints them. An address on
the command line goes before that in the settings, unless it is empty or zero.
-/

namespace QuestionBoard

/-- What the command line of the program says. -/
structure ServerArguments where
  configs : Option (List String) := none
  host : Option String := none
  port : Option Int := none
  printsSettings : Bool := false

namespace ServerArguments

open CommandLine

/-- The option that names files of settings, later ones going before. -/
def configOption {α : Type} (put : String → α → α) : NamedOption α :=
  ⟨["-c", "--config"], .takes fun path a => some (put path a)⟩

/-- The grammar of the program's command line. -/
def grammar : Grammar ServerArguments where
  options := [help,
    configOption fun path a => { a with configs := some (a.configs.getD [] ++ [path]) },
    ⟨["--host"], .takes fun host a => some { a with host := some host }⟩,
    ⟨["--port"], .takes fun text a => (WrittenNumber.read text).toOption.map fun port =>
      { a with port := some port }⟩,
    ⟨["--version"], .ends .versioned⟩]
  commands := [⟨"config", fun a => { a with printsSettings := true }, .absent⟩]
  commandRequired := false

def hostOver (s : Settings) (a : ServerArguments) : Text :=
  match a.host with
  | none | some "" => s.server.host
  | some host => host

def portOver (s : Settings) (a : ServerArguments) : Int :=
  match a.port with
  | none | some 0 => s.server.port
  | some port => port

def startOver (s : Settings) (a : ServerArguments) : ServerStart :=
  ⟨a.hostOver s, a.portOver s, lowerCase s.log.level.name⟩

end ServerArguments

namespace ServerProgram

/-- The name under which the program writes log lines. -/
def logger : String := "qna.scripts.run_server"

/-- The settings in the form in which they are printed. -/
def printed (s : Settings) : String := s.toJson.write (some 2) ++ "\n"

variable {φ : Type} [FileSystem φ]

/-- Configures the logger and starts a server, which may fail. -/
def serve (listen : ServerStart → Action (Log.Logger φ) Unit) (s : Settings) (a : ServerArguments) :
    Action (Log.Logger φ) ProgramOutcome := do
  s.log.apply
  let start := a.startOver s
  Action.log .info logger ("Starting server on " ++ start.host ++ ":" ++ decimalText start.port)
  match ← (listen start).attempt with
  | .ok () => return { started := some start }
  | .error f =>
    Action.log .error logger ("Error starting server: " ++ f.message)
    return { exitCode := some 1, started := some start }

/-- Loads the settings and prints or serves them. -/
def perform (listen : ServerStart → Action (Log.Logger φ) Unit) (sources : SettingsSources)
    (a : ServerArguments) : Action (Log.Logger φ) ProgramOutcome := do
  match ← (sources.loadBeside a.configs : Action (Log.Logger φ) Settings).attempt with
  | .ok s => if a.printsSettings then return { output := printed s } else serve listen s a
  | .error f =>
    if f.kind == .configuration then
      Action.log .error "qna" f.message
      return { exitCode := some 1 }
    else throw f

def run (listen : ServerStart → Action (Log.Logger φ) Unit) (sources : SettingsSources)
    (arguments : List String) : Action (Log.Logger φ) ProgramOutcome :=
  match ServerArguments.grammar.read {} arguments with
  | .accepted a => perform listen sources a
  | .versioned => return .said ("qna-server " ++ Command.version ++ "\n")
  | .helped => return .said ""
  | .refused => return .misused

end ServerProgram

end QuestionBoard
