import QuestionBoard.Board.Lifecycle
import QuestionBoard.CommandLine.Migrate
import QuestionBoard.Database.Local
import QuestionBoard.Http.Body

/-!
The command line. Its first word names a program: `server`, which serves a board, or `migrate`, which
moves the schema of a database. Log lines go to the standard error. A started board takes its requests
from the standard input, one a line: a method, a target and, if there is one, a body of JSON. It has no
connection to other servers.
-/

namespace QuestionBoard

namespace Shell

/-- A server to which there is no connection. -/
structure Unreachable where

instance : CacheNetwork Unreachable where
  call _ server := (.error (.fault .cacheServerConnection "no connection"), server)
  connect _ := {}

instance : AnswerServer Unreachable where
  post _ _ _ server := (.error (.fault .httpConnection "no connection"), server)
  clock server := (.zero false, server)

/-- The board that the program serves. -/
abbrev Service := AnswerService QuestionBackend (CacheBackend Unreachable) (AnswerClient Unreachable)

abbrev Ground := Surroundings LocalDatabases FileTree

/-! ### Files, variables and the clock -/

def readText? (path : String) : IO (Option String) := do
  try return some (← IO.FS.readFile path) catch _ => return none

def readVariables : IO Variables := do
  let text := (← readText? "/proc/self/environ").getD ""
  return (text.splitOn "\x00").filterMap fun entry =>
    match entry.splitOn "=" with
    | name :: value :: rest => some (name, some ("=".intercalate (value :: rest)))
    | _ => none

/-- The variables, and the files among some paths that can be read. -/
def readSources (configs : Option (List String)) : IO SettingsSources := do
  let sources : SettingsSources := { environment := ← readVariables }
  let files ← (".env" :: sources.paths configs).filterMapM fun path => do
    return (← readText? path).map fun text => (path, text)
  return { sources with files := .ofFiles files }

def readClock : IO Binary64 := do
  return (⟨(← IO.monoMsNow) * 1000⟩ : Duration).totalSeconds

def printLog (lines : List Log.Line) : IO Unit :=
  lines.forM fun line => IO.eprintln (line.level.name ++ " " ++ line.logger ++ " " ++ line.message.shown)

/-- Prints the output of a program. -/
def finish (outcome : Except Failure ProgramOutcome) : IO UInt32 := do
  match outcome with
  | .ok outcome =>
    IO.print outcome.output
    return (outcome.exitCode.getD 0).toUInt32
  | .error f =>
    IO.eprintln (f.kind.name ++ ": " ++ f.message.shown)
    return 1

/-! ### Serving -/

def requestOf (line : String) : HttpRequest :=
  match line.trimAscii.toString.splitOn " " with
  | method :: target :: body =>
    .ofTarget method target [("content-type", "application/json")] (" ".intercalate body)
  | method => .ofTarget (" ".intercalate method) "/" [] ""

def shown (r : HttpResponse) : String := toString r.status ++ " " ++ r.body.wire.toOption.getD ""

/-- The board with its clock set. -/
def atTime (now : Binary64) (s : Service) : Service :=
  { s with cache := match s.cache with
      | .inProcess cache => .inProcess { cache with now }
      | .remote cache => .remote cache }

/-- Answers the requests that come in. -/
partial def answerLines (name : Text) (s : Service) (journal : Journal) : IO (Service × Journal) := do
  let line ← (← IO.getStdin).getLine
  if line.isEmpty then return (s, journal)
  let o := (Board.reply name (requestOf line)).outcome (atTime (← readClock) s) journal
  printLog o.journal.lines
  IO.println (shown (o.result.toOption.getD .broken))
  answerLines name o.state { o.journal with lines := [] }

/-- Starts a board, answers its requests and stops it. -/
def serve (settings : Settings) (log : Log.Logger FileTree) (journal : Journal) : IO Unit := do
  let ground : Ground := { databases := { host := {} }, log }
  let parts := Board.partsOfSettings (← readClock) ({ server := {} } : HttpNetwork Unreachable)
  let o := (Board.start parts settings : Action Ground Service).outcome ground { journal with lines := [] }
  printLog o.journal.lines
  match o.result with
  | .error f => IO.eprintln (f.kind.name ++ ": " ++ f.message.shown)
  | .ok service =>
    let (service, journal) ← answerLines settings.serviceName service { o.journal with lines := [] }
    printLog ((Board.stop settings service).outcome o.state journal).journal.lines

/-! ### Programs -/

def runServer (arguments : List String) : IO UInt32 := do
  let configs := match ServerArguments.grammar.read {} arguments with
    | .accepted a => a.configs
    | _ => none
  let sources ← readSources configs
  let o := (ServerProgram.run (fun _ => return ()) sources arguments).outcome
    ({ name := "qna", level := 20, files := {} } : Log.Logger FileTree) .ordinary
  printLog o.journal.lines
  if let .ok { started := some _, .. } := o.result then
    if let .ok settings := ((sources.load configs).outcome () .ordinary).result then
      serve settings o.state o.journal
  finish o.result

/-- Runs the program that moves a schema. -/
def runMigrate (arguments : List String) : IO UInt32 := do
  let configs := match MigrationArguments.grammar.read {} arguments with
    | .accepted a => a.configs
    | _ => none
  let o := (MigrationProgram.run (← readSources configs) arguments).outcome ({} : LocalDatabases) .ordinary
  printLog o.journal.lines
  finish o.result

end Shell

end QuestionBoard

def main (arguments : List String) : IO UInt32 :=
  match arguments with
  | "server" :: rest => QuestionBoard.Shell.runServer rest
  | "migrate" :: rest => QuestionBoard.Shell.runMigrate rest
  | _ => do
    IO.eprintln "usage: (server | migrate) [arguments]"
    return 2
