import QuestionBoard.Failure.Basic
import QuestionBoard.Http.Request
import QuestionBoard.Json.Writer

/-!
HTTP responses, and what they say to readers from other origins: everyone may read them. A browser
that asks beforehand is told whether the method it names is one of the usual ones.
-/

namespace QuestionBoard

/-- What a response carries. -/
inductive HttpBody
  | empty
  | text (content : String)
  | data (content : Json)
  /-- The fields of the request's body that break rules, each with what was found there. -/
  | violations (violations : List (Violation × Json))

/-- One step of the way to a field as data. -/
def Place.toJson : Place → Json
  | .name key => .text key
  | .index position => .int position

def Violation.toJson (v : Violation) (found : Json) : Json :=
  let more : List (Text × Json) := match v.rule with
    | .textTooLong limit => [("ctx", .object [("max_length", .int limit)])]
    | _ => []
  let fields : List (Text × Json) := [("type", .text v.rule.name), ("loc", .array (v.place.map Place.toJson)),
    ("msg", .text v.rule.message), ("input", found)]
  .object (fields ++ more)

/-- What goes over the wire. -/
def HttpBody.wire : HttpBody → Except Failure String
  | .empty => .ok ""
  | .text content => .ok content
  | .data content => content.wire
  | .violations broken =>
    (Json.object [("detail", .array (broken.map fun (v, found) => v.toJson found))]).wire

structure HttpResponse where
  status : Nat
  body : HttpBody
  /-- The origin whose readers are let in; an asterisk is any. -/
  allowedOrigin : Option String := none

namespace HttpResponse

def ok (content : Json) : HttpResponse := ⟨200, .data content, none⟩

/-- A response that says in words what is wrong. -/
def detail (status : Nat) (message : Text) : HttpResponse :=
  ⟨status, .data (.object [("detail", .text message)]), none⟩

/-- The response to a body that breaks rules. -/
def unprocessable (violations : List (Violation × Json)) : HttpResponse := ⟨422, .violations violations, none⟩

/-- The response, if its body can go over the wire. -/
def sent (response : HttpResponse) : Except Failure HttpResponse := response.body.wire.map fun _ => response

/-- The response when a request failed in a way that nobody expected. -/
def broken : HttpResponse := ⟨500, .text "Internal Server Error", none⟩

/-! ### Other origins -/

/-- The methods that other origins may use. -/
def usualMethods : List String := ["DELETE", "GET", "HEAD", "OPTIONS", "PATCH", "POST", "PUT"]

/-- The response to a browser that asks beforehand, if that is what the request is. -/
def preflight? (r : HttpRequest) : Option HttpResponse :=
  match r.header? "origin", r.header? "access-control-request-method" with
  | some _, some method =>
    if r.method != "OPTIONS" then none
    else if usualMethods.contains method then some ⟨200, .text "OK", some "*"⟩
    else some ⟨400, .text "Disallowed CORS method", some "*"⟩
  | _, _ => none

/-- The response with the origin that is let in: any, or the request's own if it came with cookies. -/
def forOrigin (r : HttpRequest) (response : HttpResponse) : HttpResponse :=
  match r.header? "origin", r.header? "cookie" with
  | none, _ => response
  | some _, none => { response with allowedOrigin := some "*" }
  | some origin, some _ => { response with allowedOrigin := some origin }

end HttpResponse

end QuestionBoard
