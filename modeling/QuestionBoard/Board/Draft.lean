import QuestionBoard.Field.Reader
import QuestionBoard.Question.Basic

/-!
Questions as they come in a request and go out in a response. The identifier in a body is a text or a
whole number; a title has at most 255 characters. What goes out has to have texts in all places.
-/

namespace QuestionBoard

/-- A question in the body of a request. -/
structure QuestionDraft where
  /-- A text or a whole number. -/
  id : Option Json
  title : String
  content : Text
  tags : Option (List Text)

namespace QuestionDraft

def maxTitle : Nat := 255

/-- Reads an identifier; what is neither text nor number breaks a rule for each of the two. -/
def identifier : Field.Reader Json
  | .text t => .valid (.text t)
  | .int n => .valid (.int n)
  | data =>
    match Field.int data with
    | .valid n => .valid (.int n)
    | .broken violations =>
      .broken (⟨.textType, [.name "str"]⟩ :: violations.map (·.within (.name "int")))

/-- Reads tags, which may be null. -/
def tagsReader : Field.Reader (Option (List Text)) := Field.optional (Field.list Field.text)

def ofNew : Field.Reader QuestionDraft := fun data =>
  (fun id title content tags => ⟨some id, title, content, tags⟩) <$>
    Field.required "id" identifier data <*>
    Field.required "title" (Field.textUpTo maxTitle) data <*>
    Field.required "content" Field.text data <*>
    Field.ofKey "tags" tagsReader none data

/-- Reads a question that replaces another; its identifier may be left out. -/
def ofReplacement : Field.Reader QuestionDraft := fun data =>
  QuestionDraft.mk <$>
    Field.ofKey "id" (Field.optional identifier) none data <*>
    Field.required "title" (Field.textUpTo maxTitle) data <*>
    Field.required "content" Field.text data <*>
    Field.ofKey "tags" tagsReader none data

def question (id : QuestionId) (d : QuestionDraft) : Question :=
  { id, title := .text d.title, content := .text d.content, tags := d.tags.map (·.map .text) }

end QuestionDraft

/-- A question as it goes out. -/
def Question.response (q : Question) : Except Failure Json :=
  let data := q.toData
  let checked := (fun _ _ _ => data) <$>
    Field.required "title" Field.text data <*>
    Field.required "content" Field.text data <*>
    Field.required "tags" QuestionDraft.tagsReader data
  checked.toExcept .validation

end QuestionBoard
