import QuestionBoard.Database.Engine
import QuestionBoard.File.Tree
import QuestionBoard.Migration.Basic

/-!
Databases in files of a working directory. A file is made when it is first connected to; a database
without a file is empty and lasts as long as its connection. A migration that has connected leaves
the table of versions behind, whatever comes of it. Databases of other kinds cannot be reached.
-/

namespace QuestionBoard

structure DatabaseFile where
  /-- Whether there is the table of versions. -/
  versioned : Bool := false
  questions : Option QuestionTable := none

namespace DatabaseFile

def revision (d : DatabaseFile) : Revision := if d.questions.isSome then .questions else .base

/-- Moves the schema to a revision. -/
def moveTo (d : DatabaseFile) : Revision → DatabaseFile
  | .base => { d with questions := none }
  | .questions => { d with questions := some (d.questions.getD {}) }

def migrate (m : Migration) (d : DatabaseFile) : Except Failure Unit × DatabaseFile :=
  let d := { d with versioned := true }
  match m.destination d.revision with
  | .ok revision => (.ok (), d.moveTo revision)
  | .error f => (.error f, d)

/-- The names of the tables, sorted. -/
def tables (d : DatabaseFile) : List String :=
  (if d.versioned then ["alembic_version"] else []) ++
    (if d.questions.isSome then ["questions"] else [])

/-- The columns of the table of questions: their names, types and whether they may be null. -/
def columns : List (String × String × Bool) :=
  [("id", "INTEGER", false), ("title", "VARCHAR(255)", false), ("content", "TEXT", false),
    ("tags", "JSON", true), ("created_on", "DATETIME", false)]

end DatabaseFile

/-- The files of a working directory, and the databases in it by the names on the way to them. -/
structure LocalDatabases where
  files : FileTree := {}
  databases : OrderedMap (List String) DatabaseFile := .empty

namespace LocalDatabases

/-- The failure for a place at which no file can be. -/
def cannotOpen : Failure :=
  .fault .databaseOperational "(sqlite3.OperationalError) unable to open database file"

/-- The failure for a file that holds something else. -/
def notDatabase : Failure := .fault .databaseFile "(sqlite3.DatabaseError) file is not a database"

def unreachable (url : DatabaseUrl) : Failure :=
  .fault .connectionRefused ("[Errno 111] Connect call failed (" ++
    quoted (url.host.getD "localhost") ++ ", " ++ decimalText (url.port.getD 5432) ++ ")")

/-- What the file at a place holds; an absent file is an empty database. -/
def fileAt (place : List String) (d : LocalDatabases) : Except Failure DatabaseFile :=
  match d.databases.get? place with
  | some file => .ok file
  | none =>
    match d.files.entryAt place with
    | .file "" => .ok {}
    | .file _ => .error notDatabase
    | .directory | .belowFile => .error cannotOpen
    | .absent => if d.files.isDirectory place.dropLast then .ok {} else .error cannotOpen

def atAddress {α : Type} (url : DatabaseUrl) (step : DatabaseFile → Except Failure α × DatabaseFile)
    (d : LocalDatabases) : Except Failure α × LocalDatabases :=
  if url.scheme != "sqlite+aiosqlite" then (.error (unreachable url), d)
  else
    match url.database with
    | none | some (.plain "") | some (.plain ":memory:") => ((step {}).1, d)
    | some path =>
      match path.written.bind fun path => (d.fileAt (Path.names path)).map fun file => (Path.names path, file) with
      | .error f => (.error f, d)
      | .ok (place, file) =>
        let (result, file) := step file
        (result, { d with databases := d.databases.insert place file })

instance : DatabaseHost LocalDatabases where
  migrate m address d :=
    match Engine.address address with
    | .ok url => d.atAddress url (DatabaseFile.migrate m)
    | .error f => (.error f, d)
  connect url d := d.atAddress url fun file => (.ok file.questions, file)

/-- The database in the file at a path, if there is one. -/
def find? (path : String) (d : LocalDatabases) : Option DatabaseFile :=
  d.databases.get? (Path.names path)

end LocalDatabases

end QuestionBoard
