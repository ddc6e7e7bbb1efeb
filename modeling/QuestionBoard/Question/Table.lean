import QuestionBoard.Json.Rewrite
import QuestionBoard.Question.Basic
import QuestionBoard.Question.Selection

/-!
The relational table of questions. Records stand in the order in which they were inserted; listings
sort them by key. A record that is inserted without a key gets the one after the greatest, so the
key of the last record is given again once that record is deleted.
-/

namespace QuestionBoard

/-- A row of the table. -/
structure QuestionRecord where
  key : Int
  title : Json
  content : Json
  tags : Option (List Json)

/-- The question that a row shows. -/
def QuestionRecord.toQuestion (r : QuestionRecord) : Question :=
  { id := .ofKey r.key, title := r.title, content := r.content, tags := Question.presentTags r.tags }

structure QuestionTable where
  records : List QuestionRecord := []

namespace QuestionTable

/-! ### Columns -/

/-- The greatest whole number that a statement may carry. -/
def maxInteger : Int := Nat.pow 2 63 - 1

/-- The failure of a statement with a whole number that it cannot carry. -/
def tooLarge : Failure := .fault .overflow "Python int too large to convert to SQLite INTEGER"

/-- The text that a statement carries for a value at one of its places: numbers become their text, and a
half cannot be carried. -/
def bound (position : Nat) (value : Json) : Except Failure Json :=
  match value with
  | .text t => t.written.map fun s => .text s
  | .null => .ok .null
  | .bool b => .ok (.text (if b then "1" else "0"))
  | .int n =>
    if -maxInteger - 1 ≤ n ∧ n ≤ maxInteger then .ok (.text (decimalText n))
    else .error tooLarge
  | .float x => .ok (.text x.display)
  | .array _ | .object _ => .error (.fault .databaseStatement
      ("(sqlite3.ProgrammingError) Error binding parameter " ++ decimalDigits position ++ ": type '" ++
        value.kindName ++ "' is not supported"))

/-- The title and the content as a statement carries them. -/
def boundColumns (title content : Json) : Except Failure (Json × Json) := do
  return (← bound 1 title, ← bound 2 content)

/-- Refuses a column without a value. -/
def required (name : String) (value : Json) : Except Failure Unit :=
  match value with
  | .null => .error (.fault .databaseIntegrity
      ("(sqlite3.IntegrityError) NOT NULL constraint failed: questions." ++ name))
  | _ => .ok ()

/-- The row of a question under a key, of columns as a statement carries them; tags are carried as JSON. -/
def record (key : Int) (columns : Json × Json) (tags : Option (List Json)) :
    Except Failure QuestionRecord := do
  required "title" columns.1
  required "content" columns.2
  return { key, title := columns.1, content := columns.2, tags := tags.map (·.map Json.paired) }

/-! ### Rows -/

/-- The keys in the order of insertion. -/
def keys (t : QuestionTable) : List Int := t.records.map (·.key)

/-- The key after the greatest, or 1 in an empty table. -/
def nextKey (t : QuestionTable) : Int :=
  match t.keys.max? with
  | none => 1
  | some greatest => greatest + 1

/-- The rows sorted by key. -/
def sorted (t : QuestionTable) : List QuestionRecord :=
  t.records.mergeSort fun r s => decide (r.key ≤ s.key)

def find? (key : Int) (t : QuestionTable) : Option QuestionRecord := t.records.find? (·.key == key)

/-- Inserts a row with its key, which has to be a new one. -/
def insertRecord (r : QuestionRecord) (t : QuestionTable) : Except Failure QuestionTable :=
  if t.keys.contains r.key then
    .error (.fault .databaseIntegrity
      "(sqlite3.IntegrityError) UNIQUE constraint failed: questions.id")
  else .ok { records := t.records ++ [r] }

/-- Replaces the columns of the row with a key; nothing happens if there is none. -/
def replace (r : QuestionRecord) (t : QuestionTable) : QuestionTable :=
  { records := t.records.map fun old => if old.key = r.key then r else old }

def delete (key : Int) (t : QuestionTable) : QuestionTable :=
  { records := t.records.filter (·.key ≠ key) }

/-- At most `limit` rows in the order of their keys, from position `offset` on. -/
def slice (offset limit : Nat) (t : QuestionTable) : List QuestionRecord :=
  (t.sorted.drop offset).take limit

/-- The rows of a slice, by a statement that carries its bounds. -/
def page (offset limit : Nat) (t : QuestionTable) : Except Failure (List QuestionRecord) :=
  if (offset : Int) ≤ maxInteger ∧ (limit : Int) ≤ maxInteger then .ok (t.slice offset limit)
  else .error tooLarge

end QuestionTable

end QuestionBoard
