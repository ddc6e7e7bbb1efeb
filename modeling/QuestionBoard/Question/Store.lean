import QuestionBoard.Question.Repository
import QuestionBoard.Collection.OrderedMap

/-!
The store of questions in memory: an ordered map from identifiers to questions. The identifier that
a question comes with is the one it is stored under, and adding a question whose identifier is
stored already replaces the stored one in its place.
-/

namespace QuestionBoard

structure QuestionStore where
  questions : OrderedMap QuestionId Question := .empty

namespace QuestionStore

def empty : QuestionStore := {}

/-- The store that holds a list of questions; of equal identifiers the last question counts. -/
def ofList (questions : List Question) : QuestionStore :=
  ⟨.ofEntries (questions.map fun q => (q.id, q))⟩

/-- The identifiers, in order. -/
def ids (s : QuestionStore) : List QuestionId := s.questions.keys

/-- Stores a question under its identifier. -/
def put (q : Question) (s : QuestionStore) : QuestionStore := ⟨s.questions.insert q.id q⟩

/-- The name under which the store writes log lines. -/
def logger : String := "qna.domain.questions.memory_repository"

/-- Adds a question or replaces the one with its identifier. -/
def add (q : Question) : Action QuestionStore Question := do
  if (← get).questions.contains q.id then
    Action.log .debug logger ("Overwriting question " ++ q.id.text)
  modify (put q)
  return q

/-- Replaces the question with the same identifier. -/
def update (q : Question) : Action QuestionStore Question := do
  unless (← get).questions.contains q.id do throw (.noQuestion q.id)
  modify (put q)
  return q

def delete (id : QuestionId) : Action QuestionStore Unit := do
  unless (← get).questions.contains id do throw (.noQuestion id)
  modify fun s => ⟨s.questions.erase id⟩

def find (id : QuestionId) : Action QuestionStore Question := do
  match (← get).questions.get? id with
  | some q => return q
  | none => throw (.noQuestion id)

/-- The questions at the positions of a window. -/
def list (selection : Selection) : Action QuestionStore (List Question) := do
  let store ← get
  return if selection.window.isEmpty then [] else selection.window.of store.questions.values

def count : Action QuestionStore Nat := do return (← get).questions.size

/-- Removes every question. -/
def clear : Action QuestionStore Unit := modify fun _ => empty

instance : QuestionRepository QuestionStore where
  add := add
  update := update
  delete := delete
  get := find
  list := list

end QuestionStore

end QuestionBoard
