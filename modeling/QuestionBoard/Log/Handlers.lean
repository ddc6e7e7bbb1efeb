import QuestionBoard.Action
import QuestionBoard.File.Tree
import QuestionBoard.Log.Layout
import QuestionBoard.Text.Case

/-!
A logger with its handlers, and how it is configured. A configuration takes every earlier handler
away and closes it; then it attaches one for the console and one for a file, as it is told. A file
that is not there or not permitted is only warned of. A level without a name changes nothing.
-/

namespace QuestionBoard

namespace Log

/-- Where a handler writes. -/
inductive Sink
  | console
  | file (path : Text)

/-- A handler: its number among those that were made, where it writes and how. -/
structure Handler where
  number : Nat
  sink : Sink
  layout : Layout

inductive LevelChoice
  | named (name : String)
  | number (severity : Int)
  /-- What is neither a name nor a number. -/
  | other (shown : String)

structure Options where
  level : LevelChoice := .number 20
  template : String := TextLayout.standard.template
  datePattern : String := TextLayout.standard.datePattern
  useJson : Bool := false
  file : Option Text := none
  console : Bool := true

/-- The options that the variables of an environment ask for. -/
def Options.ofEnvironment (lookup : String → Option String) : Options :=
  { level := .named ((lookup "LOG_LEVEL").getD "INFO")
    useJson := lowerCase ((lookup "LOG_JSON").getD "false") == "true"
    file := (lookup "LOG_FILE").map .plain }

/-- A logger, what it has written on the console, and the file system. -/
structure Logger (φ : Type) where
  name : String
  /-- The least severity that is written, or 0 for the usual one. -/
  level : Int := 0
  handlers : List Handler := []
  /-- How many handlers were made. -/
  made : Nat := 0
  /-- The numbers of the handlers that were closed. -/
  closed : List Nat := []
  console : String := ""
  files : φ

def LevelChoice.severity : LevelChoice → Except Failure Int
  | .number n => .ok n
  | .other shown =>
    .error (.fault .type ("Level not an integer or a valid string: " ++ shown))
  | .named name =>
    match severity? (upperCase name) with
    | some n => .ok n
    | none =>
      .error (.fault .attribute ("module 'logging' has no attribute '" ++ upperCase name ++ "'"))

namespace Logger

variable {φ : Type} [FileSystem φ]

def attach (sink : Sink) (layout : Layout) : Action (Logger φ) Unit := modify fun l =>
  { l with handlers := l.handlers ++ [⟨l.made, sink, layout⟩], made := l.made + 1 }

/-- Takes every handler away and closes it. -/
def detachAll : Action (Logger φ) Unit := modify fun l =>
  { l with handlers := [], closed := l.closed ++ l.handlers.map (·.number) }

def layoutOf (options : Options) : Except Failure Layout :=
  if options.useJson then .ok .json
  else (TextLayout.ofTemplate options.template options.datePattern).map .text

/-- Makes the directory of a log file and opens the file. -/
def openLogFile (path : Text) : Action (Logger φ) Unit := do
  let l ← get
  let directory := Path.directory path
  let (made, files) :=
    if directory == "" then (.ok (), l.files) else FileSystem.makeDirectories directory l.files
  set { l with files }
  Action.ofExcept made
  let (opened, files) := FileSystem.openToAppend path files
  set { l with files }
  Action.ofExcept opened

/-- Whether a failure to open a log file is only warned of. -/
def isTolerated (f : Failure) : Bool :=
  f.kind == .fault .fileNotFound || f.kind == .fault .permissionDenied

/-- The least severity that is written. -/
def effectiveLevel (l : Logger φ) : Int := if l.level = 0 then Level.warning.severity else l.level

def isEnabled (severity : Int) (l : Logger φ) : Bool :=
  decide (0 < severity) && decide (l.effectiveLevel ≤ severity)

def configure (options : Options) : Action (Logger φ) Unit := do
  let level ← Action.ofExcept options.level.severity
  modify fun l => { l with level }
  detachAll
  let layout ← Action.ofExcept (layoutOf options)
  if options.console then attach .console layout
  match options.file with
  | none | some (.plain "") => return ()
  | some path =>
    match ← (openLogFile path : Action (Logger φ) Unit).attempt with
    | .ok () => attach (.file path) layout
    | .error f =>
      let l : Logger φ ← get
      if !isTolerated f then throw f
      if l.isEnabled Level.warning.severity then
        Action.log .warning l.name ("Could not create log file " ++ path ++ ": " ++ f.message)

/-- Writes a record on a handler; a record that cannot be written is left out. -/
def writeOn (r : Record) (l : Logger φ) (handler : Handler) : Logger φ :=
  match (handler.layout.write r).bind Text.written with
  | .error _ => l
  | .ok text =>
    match handler.sink with
    | .console => { l with console := l.console ++ text ++ "\n" }
    | .file path => { l with files := FileSystem.append path (text ++ "\n") l.files }

/-- Writes a record on every handler, if it is severe enough. -/
def write (r : Record) (l : Logger φ) : Logger φ :=
  if l.isEnabled r.severity then l.handlers.foldl (writeOn r) l else l

end Logger

end Log

end QuestionBoard
