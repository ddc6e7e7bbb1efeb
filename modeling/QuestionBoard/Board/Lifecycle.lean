import QuestionBoard.Board.Reply
import QuestionBoard.Cache.Backend
import QuestionBoard.Answer.Client
import QuestionBoard.Database.Slot
import QuestionBoard.Log.Handlers
import QuestionBoard.Question.Backend

/-!
Starting and stopping a board. Its parts are made one after another from the settings: the store of
questions, the cache, the source of answers. A start that fails after the store is there closes what
was made, as a stop does.
-/

namespace QuestionBoard

structure Surroundings (δ φ : Type) where
  databases : EngineSlot δ
  log : Log.Logger φ

namespace Surroundings

variable {δ φ α : Type}

def onDatabases (a : Action (EngineSlot δ) α) : Action (Surroundings δ φ) α :=
  a.onPart Surroundings.databases fun databases s => { s with databases }

def onLog (a : Action (Log.Logger φ) α) : Action (Surroundings δ φ) α :=
  a.onPart Surroundings.log fun log s => { s with log }

end Surroundings

def LogSettings.options (s : LogSettings) : Log.Options :=
  { level := .number s.level.severity, useJson := s.useJson, file := s.filePath }

/-- Configures the logger as settings say, the threshold of the journal with it. -/
def LogSettings.apply {φ : Type} [FileSystem φ] (s : LogSettings) : Action (Log.Logger φ) Unit := do
  Action.setThreshold s.level.severity
  Log.Logger.configure s.options

structure BoardParts (δ φ σ κ γ : Type) where
  questions : Settings → Action (Surroundings δ φ) σ
  cache : Settings → Action (Surroundings δ φ) κ
  source : Settings → γ

namespace Board

/-- The name under which starts and stops are logged. -/
def lifecycleLogger : String := "qna.main"

variable {δ φ σ κ γ : Type}

def makeStore [DatabaseHost δ] (s : Settings) : Action (Surroundings δ φ) QuestionBackend := do
  match s.db with
  | .inMemory =>
    Action.log .info lifecycleLogger "Using in-memory question repository"
    return .memory .empty
  | .postgres settings =>
    let engine ← Surroundings.onDatabases (EngineSlot.start settings)
    let table ← Surroundings.onDatabases (EngineSlot.connect engine)
    Action.log .info lifecycleLogger "Using PostgreSQL question repository"
    return .relational { table }

def makeClient {ρ : Type} [AnswerServer ρ] (network : HttpNetwork ρ) (s : Settings) : AnswerClient ρ :=
  .owning s.answer.url s.answer.timeout network

/-- Parts that are all made as settings say, by a clock with a reading and over a network. -/
def partsOfSettings {ρ ψ : Type} [DatabaseHost δ] [CacheNetwork ρ] [AnswerServer ψ] (now : Binary64)
    (network : HttpNetwork ψ) :
    BoardParts δ φ QuestionBackend (CacheBackend ρ) (AnswerClient ψ) where
  questions := makeStore
  cache s := CacheBackend.create s.cache now
  source := makeClient network

/-- How long an answer is kept. -/
def lifetime (s : Settings) : Except Failure (Option Duration) :=
  match s.answer.cacheSeconds with
  | none => .ok none
  | some seconds => (Duration.ofSeconds? seconds).map some

/-- A step on a part of the board that is there. -/
def onMade {τ : Type} (a : Action τ Unit) (part : Option τ) : Action (Surroundings δ φ) Unit := do
  if let some part := part then Action.ofExcept (← a.beside part).1

variable [DatabaseHost δ] [FileSystem φ] [Cache κ] [AnswerSource γ]

/-- Closes the parts that are there, and the database. -/
def closeParts (s : Settings) (cache : Option κ) (source : Option γ) :
    Action (Surroundings δ φ) Unit := do
  onMade AnswerSource.close source
  onMade Cache.close cache
  Surroundings.onDatabases EngineSlot.close
  Action.log .info lifecycleLogger (s.serviceName ++ " shutdown complete")

/-- The value of a result; a failure closes the parts that are there. -/
def orClose {α : Type} (s : Settings) (cache : Option κ) (source : Option γ)
    (result : Except Failure α) : Action (Surroundings δ φ) α := do
  match result with
  | .ok value => return value
  | .error f =>
    closeParts s cache source
    throw f

def start (parts : BoardParts δ φ σ κ γ) (s : Settings) :
    Action (Surroundings δ φ) (AnswerService σ κ γ) := do
  Surroundings.onLog s.log.apply
  let questions ← parts.questions s
  let cache ← orClose s (none : Option κ) (none : Option γ) (← (parts.cache s).attempt)
  let (probed, cache) ← (Cache.probe : Action κ Unit).beside cache
  orClose s (some cache) (none : Option γ) probed
  let source := parts.source s
  let lifetime ← orClose s (some cache) (some source) (lifetime s)
  Action.log .info lifecycleLogger (s.serviceName ++ " startup complete")
  return { questions, cache, source, lifetime }

def stop (s : Settings) (service : AnswerService σ κ γ) : Action (Surroundings δ φ) Unit :=
  closeParts s (some service.cache) (some service.source)

end Board

end QuestionBoard
