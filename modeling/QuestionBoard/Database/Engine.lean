import QuestionBoard.Action
import QuestionBoard.Database.Url
import QuestionBoard.Settings.Basic

/-!
Database engines: what connections are made from. The engine for a server holds a pool that never
grows past its size; one for a file has no such options.
-/

namespace QuestionBoard

structure PoolOptions (τ : Type) where
  size : Int
  /-- How many connections there may be beyond the size. -/
  overflow : Int := 0
  /-- For how long a request waits for a connection. -/
  timeout : τ
  /-- Whether a connection is tested before it is used. -/
  prePing : Bool := true
  /-- The seconds after which a connection is replaced. -/
  recycleSeconds : Int := 300

structure EngineOptions (τ : Type) where
  echo : Bool
  pool : Option (PoolOptions τ)

def EngineOptions.ofUrl {τ : Type} (url : Text) (maxSize : Int) (timeout : τ) (echo : Bool) :
    EngineOptions τ :=
  { echo, pool := if (Text.plain "postgresql").points.isPrefixOf url.points then
    some { size := maxSize, timeout } else none }

/-- An engine: its number among those that were created, its address and its options. -/
structure Engine where
  number : Nat
  url : DatabaseUrl
  options : EngineOptions Binary64

namespace Engine

/-- The name under which the creation of engines is logged. -/
def logger : String := "qna.db.connection"

def schemes : List Text := ["postgresql+asyncpg", "sqlite+aiosqlite"]

/-- The parts of an address that there is a driver for. -/
def address (url : Text) : Except Failure DatabaseUrl := do
  let parts ← DatabaseUrl.parse url
  if schemes.contains parts.scheme then return parts
  else throw (.fault .databasePlugin ("Can't load plugin: sqlalchemy.dialects:" ++
    Text.joined "." (parts.scheme.splitOn '+')))

def create {σ : Type} (settings : PostgresSettings) (number : Nat) : Action σ Engine := do
  let url := DatabaseUrl.withDriver settings.url
  Action.log .info logger ("Creating database engine for " ++ DatabaseUrl.schemeOf url ++
    " with pool size " ++ decimalText settings.maxSize)
  let options := EngineOptions.ofUrl url settings.maxSize settings.poolTimeout settings.echo
  return { number, url := ← Action.ofExcept (address url), options }

end Engine

end QuestionBoard
