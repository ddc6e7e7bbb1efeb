import QuestionBoard.Question.Repository
import QuestionBoard.Question.Table

/-!
The relational store of questions. Every operation that needs the table opens one connection and
runs one statement; an identifier that is no key, or a window that can hold nothing, is answered
without one. Faults of the database and of the system become internal failures with one error line,
and a failed operation leaves the table as it was.
-/

namespace QuestionBoard

/-- A database: its table of questions, if there is one, and what opening a connection comes to. -/
structure QuestionDatabase where
  table : Option QuestionTable := some {}
  /-- What is raised when a connection is opened. -/
  fault : Option Failure := none
  /-- How many connections were opened, or tried. -/
  connections : Nat := 0

namespace QuestionDatabase

/-- The name under which the store writes log lines. -/
def logger : String := "qna.domain.questions.sql_repository"

def isTranslated (f : Failure) : Bool := f.isFault FaultKind.isDatabase || f.isFault FaultKind.isSystem

/-- The failure of a statement that needs a table that is not there. -/
def noTable : Failure :=
  .fault .databaseOperational "(sqlite3.OperationalError) no such table: questions"

/-- What a statement comes to over a connection: its result and the table after it. -/
def execute {α : Type} (statement : QuestionTable → Except Failure (α × QuestionTable))
    (d : QuestionDatabase) : Except Failure (α × QuestionTable) := do
  if let some fault := d.fault then throw fault
  match d.table with
  | none => throw noTable
  | some table => statement table

def connected {α : Type} (operation : String)
    (statement : QuestionTable → Except Failure (α × QuestionTable)) : Action QuestionDatabase α := do
  modify fun d => { d with connections := d.connections + 1 }
  let d ← get
  match execute statement d with
  | .ok (result, table) =>
    set { d with table := some table }
    return result
  | .error f =>
    if isTranslated f then
      Action.log .error logger ("Database error in " ++ operation ++ ": " ++ f.message)
      throw (.internal ("question " ++ operation ++ " failed: " ++ f.message) (some f.kind))
    else throw f

/-- Adds a question under a key of the table's own. -/
def add (q : Question) : Action QuestionDatabase Question :=
  connected "add" fun table => do
    let columns ← QuestionTable.boundColumns q.title q.content
    let r ← QuestionTable.record table.nextKey columns q.tags
    return (r.toQuestion, ← table.insertRecord r)

/-- Replaces the question with the key that the identifier writes. -/
def update (q : Question) : Action QuestionDatabase Question := do
  let key ← Action.ofExcept q.id.toKey
  let stored ← connected "update" fun table => do
    let columns ← QuestionTable.boundColumns q.title q.content
    match table.find? key with
    | none => return (none, table)
    | some _ =>
      let r ← QuestionTable.record key columns q.tags
      return (some r.toQuestion, table.replace r)
  match stored with
  | some stored => return stored
  | none => throw (.noQuestion q.id)

/-- Deletes the question with the key that the identifier writes. -/
def delete (id : QuestionId) : Action QuestionDatabase Unit := do
  let key ← Action.ofExcept id.toKey
  let found ← connected "delete" fun table => .ok ((table.find? key).isSome, table.delete key)
  unless found do throw (.noQuestion id)

def find (id : QuestionId) : Action QuestionDatabase Question := do
  let key ← Action.ofExcept id.toKey
  match ← connected "get" fun table => .ok (table.find? key, table) with
  | some r => return r.toQuestion
  | none => throw (.noQuestion id)

/-- The questions at the positions of a window, in the order of their keys. -/
def list (selection : Selection) : Action QuestionDatabase (List Question) := do
  let w := selection.window
  let greatest := QuestionTable.maxInteger.toNat
  if w.isEmpty || greatest < w.start then return []
  let rows ← connected "list" fun table =>
    (table.page w.start (min w.limit greatest)).map fun rows => (rows, table)
  return rows.map QuestionRecord.toQuestion

instance : QuestionRepository QuestionDatabase where
  add := add
  update := update
  delete := delete
  get := find
  list := list

/-- Inserts a row directly, with a key of its own or the next one. -/
def insertRow (key : Option Int) (title content : Json) (tags : Option (List Json))
    (d : QuestionDatabase) : Except Failure QuestionDatabase := do
  let table := d.table.getD {}
  let columns ← QuestionTable.boundColumns title content
  let r ← QuestionTable.record (key.getD table.nextKey) columns tags
  return { d with table := some (← table.insertRecord r) }

def keys (d : QuestionDatabase) : List Int := (d.table.getD {}).sorted.map (·.key)

end QuestionDatabase

end QuestionBoard
