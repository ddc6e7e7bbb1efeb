import QuestionBoard.Text.Percent
import QuestionBoard.Text.Case

/-!
HTTP requests. A target is a path and, after a question mark, a query. The path is read without its
escapes; the query holds parameters, of which the last of equal names counts.
-/

namespace QuestionBoard

structure HttpRequest where
  method : String
  /-- The path without escapes. -/
  path : String
  /-- The query as it came. -/
  query : String := ""
  headers : List (String × String) := []
  body : String := ""

namespace HttpRequest

def ofTarget (method target : String) (headers : List (String × String)) (body : String) :
    HttpRequest :=
  let path := target.toList.takeWhile (· != '?')
  { method, path := Percent.decoded (String.ofList path)
    query := String.ofList (target.toList.drop (path.length + 1)), headers, body }

/-- The value of a header, whose name is written in any case. -/
def header? (name : String) (r : HttpRequest) : Option String :=
  (r.headers.find? fun header => equalIgnoringCase header.1 name).map Prod.snd

/-- The text that a part of a query stands for: each of its bytes counts as a character, and a plus
sign as a space. -/
def parameterText (cs : List Char) : String :=
  let wire := (encodeUtf8 (String.ofList cs)).map fun byte => Char.ofNat byte.toNat
  Percent.decoded (String.ofList (wire.map fun c => if c == '+' then ' ' else c))

/-- A name and, after an equals sign, a value; nothing if the text is empty. -/
def parameter? : List Char → Option (String × String)
  | [] => none
  | cs =>
    let name := cs.takeWhile (· != '=')
    some (parameterText name, parameterText (cs.drop (name.length + 1)))

/-- The parameters of the query, in order. -/
def parameters (r : HttpRequest) : List (String × String) :=
  (r.query.toList.splitOn '&').filterMap parameter?

/-- The path as log lines show it: up to a question mark or a number sign, on one line. -/
def shownPath (r : HttpRequest) : String :=
  String.ofList ((r.path.toList.takeWhile fun c => c != '?' && c != '#').filter fun c =>
    c != '\t' && c != '\r' && c != '\n')

end HttpRequest

end QuestionBoard
