import QuestionBoard.CommandLine.Server
import QuestionBoard.Migration.Basic

/-!
The program that moves the schema of a database: of the one at an address on the command line, or of
the one in the settings, which has to be relational.
-/

namespace QuestionBoard

/-- What the command line of the program says. -/
structure MigrationArguments where
  configs : Option (List String) := none
  url : Option String := none
  migration : Migration := .upgrade "head"

namespace MigrationArguments

open CommandLine

/-- The grammar of the program's command line. -/
def grammar : Grammar MigrationArguments where
  options := [help,
    ServerArguments.configOption fun path a => { a with configs := some (a.configs.getD [] ++ [path]) },
    ⟨["--url"], .takes fun url a => some { a with url := some url }⟩]
  commands := [
    ⟨"upgrade", fun a => { a with migration := .upgrade "head" },
      .optional fun target a => { a with migration := .upgrade target }⟩,
    ⟨"downgrade", id, .required fun target a => { a with migration := .downgrade target }⟩]
  commandRequired := true

end MigrationArguments

namespace MigrationProgram

/-- The name under which the program writes log lines. -/
def logger : String := "qna.scripts.migrate"

variable {δ : Type} [DatabaseHost δ]

def address (sources : SettingsSources) (a : MigrationArguments) : Action δ Text := do
  match a.url with
  | some url => if url != "" then return url else fromSettings
  | none => fromSettings
where
  fromSettings : Action δ Text := do
    match (← sources.loadBeside a.configs).db with
    | .postgres s => return s.url
    | .inMemory =>
      throw (.configuration "the configured database is not relational" (some "db.kind") none)

/-- Finds the database and moves its schema. -/
def perform (sources : SettingsSources) (a : MigrationArguments) : Action δ ProgramOutcome := do
  let move : Action δ Unit := do a.migration.run (← address sources a)
  match ← move.attempt with
  | .ok () =>
    Action.log .info logger "Migrations finished"
    return {}
  | .error f =>
    if f.kind == .configuration then
      Action.log .error logger f.message
      return { exitCode := some 2 }
    else
      Action.log .error logger ("Migration failed: " ++ f.message)
      return { exitCode := some 1 }

def run (sources : SettingsSources) (arguments : List String) : Action δ ProgramOutcome :=
  match MigrationArguments.grammar.read {} arguments with
  | .accepted a => perform sources a
  | .helped | .versioned => return .said ""
  | .refused => return .misused

end MigrationProgram

end QuestionBoard
