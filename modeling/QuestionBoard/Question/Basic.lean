import QuestionBoard.Question.Id

/-!
Questions. A question has an identifier, a title, a content and perhaps tags. The title, the content
and the single tags are kept as they came, whatever data they are.
-/

namespace QuestionBoard

structure Question where
  id : QuestionId
  title : Json
  content : Json
  tags : Option (List Json)

namespace Question

/-- The tags that a piece of data lists: an array its items, an object its keys, a text its
characters. -/
def tagsOfData : Json → Except Failure (Option (List Json))
  | .null => .ok none
  | .array items => .ok (some items)
  | .object entries => .ok (some (entries.map fun entry => .text entry.1))
  | .text t => .ok (some (t.points.map fun p => .text (.ofPoints [p])))
  | data => .error (.fault .type ("'" ++ data.kindName ++ "' object is not iterable"))

/-- The value of a field that has to be there. -/
def field (name : String) (data : Json) : Except Failure Json :=
  match data.get? name with
  | some value => .ok value
  | none => .error (.fault .key name)

/-- The question that an object describes. -/
def ofData (data : Json) : Except Failure Question := do
  match data with
  | .object _ =>
    let id ← QuestionId.of (← field "id" data)
    let title ← field "title" data
    let content ← field "content" data
    let tags ← tagsOfData ((data.get? "tags").getD .null)
    return { id, title, content, tags }
  | _ => throw (.fault .attribute ("'" ++ data.kindName ++ "' object has no attribute 'get'"))

def tagsData (q : Question) : Json :=
  match q.tags with
  | none => .null
  | some tags => .array tags

/-- The object that describes a question. -/
def toData (q : Question) : Json :=
  .object [("id", .text q.id.text), ("title", q.title), ("content", q.content), ("tags", q.tagsData)]

def columns (q : Question) : Json :=
  .object [("title", q.title), ("content", q.content), ("tags", q.tagsData)]

/-- The question under another identifier. -/
def withId (data : Json) (q : Question) : Except Failure Question := do
  return { q with id := ← QuestionId.of data }

def equals (q r : Question) : Bool :=
  q.id == r.id && q.title.equals r.title && q.content.equals r.content && q.tagsData.equals r.tagsData

/-- The tags of a stored record: missing elements are left out. -/
def presentTags (tags : Option (List Json)) : Option (List Json) :=
  tags.map fun items => items.filter fun
    | .null => false
    | _ => true

/-- The question that a record with a given key shows. -/
def ofColumns (key title content : Json) (tags : Option (List Json)) : Except Failure Question := do
  return { id := ← QuestionId.ofKeyData key, title, content, tags := presentTags tags }

/-- Why a question has no hash: its tags may change. -/
def hashFailure : Failure := .fault .type "unhashable type: 'Question'"

def recordText (key title : Json) : Text :=
  "<QuestionModel(id=" ++ key.display ++ ", title=" ++ title.quotedDisplay ++ ")>"

end Question

end QuestionBoard
