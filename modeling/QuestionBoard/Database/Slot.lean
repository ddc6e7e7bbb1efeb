import QuestionBoard.Database.Engine
import QuestionBoard.Migration.Basic

/-!
The one engine in use. A start migrates the schema if the settings say so, creates an engine and tests
a connection; the engine is in use from its creation on. A start that fails takes whatever engine is
in use out of it. Engines are told apart by number, and the numbers of the disposed ones are kept.
-/

namespace QuestionBoard

/-- A host of databases, the engine in use, and what became of the others. -/
structure EngineSlot (δ : Type) where
  host : δ
  current : Option Engine := none
  /-- How many engines were created. -/
  created : Nat := 0
  /-- The numbers of the engines that were disposed of, in order. -/
  disposed : List Nat := []

namespace EngineSlot

variable {δ : Type}

/-- The name under which the slot writes log lines. -/
def logger : String := "qna.database.init_db"

/-- The failure of asking for an engine when there is none. -/
def notInitialized : Failure :=
  .fault .runtime "Database engine not initialized. Call initialize_database() first."

def engine : Action (EngineSlot δ) Engine := do
  match (← get).current with
  | some engine => return engine
  | none => throw notInitialized

/-- Disposes of the engine in use, if there is one. -/
def dispose : Action (EngineSlot δ) Unit := modify fun s =>
  match s.current with
  | some engine => { s with current := none, disposed := s.disposed ++ [engine.number] }
  | none => s

variable [DatabaseHost δ]

def onHost {α : Type} (a : Action δ α) : Action (EngineSlot δ) α :=
  a.onPart EngineSlot.host fun host s => { s with host }

/-- Opens a connection from an engine: the table of questions that it finds. -/
def connect (engine : Engine) : Action (EngineSlot δ) (Option QuestionTable) := onHost do
  let (result, host) := DatabaseHost.connect engine.url (← get)
  set host
  Action.ofExcept result

/-- Migrates, puts a new engine to use and tests a connection. -/
def openEngine (settings : PostgresSettings) : Action (EngineSlot δ) Engine := do
  if settings.runMigrations then onHost ((Migration.upgrade "head").run settings.url)
  let engine ← Engine.create settings (← get).created
  modify fun s => { s with current := some engine, created := s.created + 1 }
  let _ ← connect engine
  return engine

/-- Puts a new engine to use; after a failure there is none. -/
def start (settings : PostgresSettings) : Action (EngineSlot δ) Engine := do
  match ← (openEngine settings : Action (EngineSlot δ) Engine).attempt with
  | .ok engine =>
    Action.log .info logger "Database engine initialized successfully"
    return engine
  | .error f =>
    Action.log .error logger ("Failed to initialize async database: " ++ f.message)
    dispose
    throw f

/-- Disposes of the engine in use. -/
def close : Action (EngineSlot δ) Unit := do
  if (← get).current.isSome then
    dispose
    Action.log .info logger "Database engine closed successfully"

end EngineSlot

end QuestionBoard
