import QuestionBoard.Action
import QuestionBoard.Database.Url
import QuestionBoard.Migration.OptionText
import QuestionBoard.Migration.Revision

/-!
Running migrations. The address of the database travels as an option of the migrations, and is read
back from there.
-/

namespace QuestionBoard

/-- Systems that keep databases. -/
class DatabaseHost (δ : Type) where
  /-- Moves the schema of the database at an address. -/
  migrate : Migration → Text → δ → Except Failure Unit × δ
  /-- Opens a connection: the table of questions that it finds, if there is one. -/
  connect : DatabaseUrl → δ → Except Failure (Option QuestionTable) × δ

namespace Migration

/-- The name under which migrations are logged. -/
def logger : String := "qna.database.init_db"

/-- The text of the option that holds the address of a database. -/
def addressOption (url : Text) : List CodePoint :=
  OptionText.escaped (DatabaseUrl.withDriver url).points

def address (url : Text) : Except Failure Text :=
  match OptionText.read (fun _ => none) (addressOption url) with
  | some ps => .ok (.ofPoints ps)
  | none => .error (.fault .value ("invalid interpolation syntax in " ++ quoted url))

def announcement : Migration → String
  | .upgrade target => "Applying database migrations up to " ++ target
  | .downgrade target => "Reverting database migrations down to " ++ target

def run {δ : Type} [DatabaseHost δ] (m : Migration) (url : Text) : Action δ Unit := do
  Action.log .info logger m.announcement
  let address ← Action.ofExcept (address url)
  let (result, host) := DatabaseHost.migrate m address (← get)
  set host
  Action.ofExcept result

end Migration

end QuestionBoard
