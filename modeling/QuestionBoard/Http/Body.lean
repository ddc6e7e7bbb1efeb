import QuestionBoard.Field.Reader
import QuestionBoard.Http.Response

/-!
Reading the body of a request. A body is read as JSON if its media type says that it is JSON; whatever
else is there counts as data that is no object. Of a text that is no JSON it is not said where it ceases to be.
-/

namespace QuestionBoard

namespace HttpRequest

/-- Whether a media type, apart from its parameters, is that of JSON. -/
def isJsonType (mediaType : String) : Bool :=
  let name := trimmed isBlank (mediaType.toList.takeWhile (· != ';'))
  match (lowerCase (String.ofList name)).toList.splitOn '/' with
  | [family, kind] =>
    family == "application".toList && (kind == "json".toList || "+json".toList.isSuffixOf kind)
  | _ => false

/-- The text without a byte order mark at its start. -/
def withoutMark (s : String) : String :=
  match s.toList with
  | '\uFEFF' :: rest => String.ofList rest
  | _ => s

/-- The response to a body that breaks one rule as a whole. -/
def refusedBody (rule : FieldRule) (found : Json) : HttpResponse :=
  .unprocessable [(⟨rule, [.name "body"]⟩, found)]

/-- What of a body breaks a rule: a field or an item of one, or the body if it has no such field. -/
def brokenPart (body : Json) (v : Violation) : Json :=
  match v.place with
  | .name field :: steps =>
    match body.get? field, steps with
    | some (.array items), [.index position] => items.getD position .null
    | some value, _ => value
    | none, _ => body
  | _ => body

/-- Reads the object in the body, or gives the response to a body that cannot be read. -/
def readBody {α : Type} (read : Field.Reader α) (r : HttpRequest) : Except HttpResponse α :=
  if r.body.isEmpty then .error (refusedBody .missing .null)
  else if !isJsonType ((r.header? "content-type").getD "") then
    .error (refusedBody .objectType (.text r.body))
  else
    match Json.parse (withoutMark r.body) with
    | .error .malformed => .error (refusedBody .invalidJson (.object []))
    | .error _ => .error (.detail 400 "There was an error parsing the body")
    | .ok (.object entries) =>
      match read (.object entries) with
      | .valid value => .ok value
      | .broken violations => .error (.unprocessable (violations.map fun v =>
          (v.within (.name "body"), brokenPart (.object entries) v)))
    | .ok data => .error (refusedBody .objectType data)

end HttpRequest

end QuestionBoard
