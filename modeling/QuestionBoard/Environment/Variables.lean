import QuestionBoard.Settings.Basic
import QuestionBoard.Settings.Merge

/-!
Settings in environment variables. Names are read in any case and start with `QNA_`. A variable that
is named for a section holds the section as JSON; one with two underscores after the section holds
one of its fields, and goes before that.
-/

namespace QuestionBoard

/-- Variables in order; one may be named without having a value. -/
abbrev Variables := List (String × Option String)

namespace Variables

/-- The common start of the names. -/
def start : String := "qna_"

/-- What stands between the name of a section and that of a field. -/
def delimiter : String := "__"

/-- The variables by their names in lower case; the last of one name counts. -/
def lowered (vs : Variables) : Variables :=
  vs.foldl (fun m (name, value) => insertEntry (lowerCase name) value m) []

def value? (name : String) (vs : Variables) : Option String :=
  (vs.lookup name).join

/-- A value put into an object at the end of a path; what is no object on the way is left as it is. -/
def insertAt (path : List String) (value : Json) (data : Json) : Json :=
  match path, data with
  | [], data => data
  | [key], .object entries => .object (insertEntry (key : Text) value entries)
  | key :: rest, .object entries =>
    .object (insertEntry (key : Text) (insertAt rest value ((entries.lookup ↑key).getD (.object []))) entries)
  | _, data => data

/-- The parts of a name between delimiters, after what was read of the first part. -/
def parts (read : List Char) : List Char → List String
  | '_' :: '_' :: rest => String.ofList read.reverse :: parts [] rest
  | c :: rest => parts (c :: read) rest
  | [] => [String.ofList read.reverse]

/-- The fields of a section that have variables of their own. -/
def fieldsOf (name : String) (vs : Variables) : Json :=
  let opening := start ++ name ++ delimiter
  vs.foldl (fun data (name, value) =>
    if name.startsWith opening then
      insertAt (parts [] (name.toList.drop opening.length)) (.ofText? (value.map .plain)) data
    else data) (.object [])

structure Section where
  name : String
  /-- Whether its text has to be JSON; otherwise text that is none stands for itself. -/
  strict : Bool
  /-- The names of its fields, which may be written in any case in JSON. -/
  fields : List String

def sections : List Section :=
  [⟨"server", true, ["host", "port"]⟩, ⟨"log", true, ["level", "use_json", "file_path"]⟩,
    ⟨"db", false, []⟩, ⟨"cache", false, []⟩,
    ⟨"answer", true, ["url", "timeout", "cache_ttl_seconds"]⟩]

/-- A key in lower case, if that is the name of one of the section's fields. -/
def Section.fieldKey (s : Section) (key : Text) : Text :=
  (key.string?.bind fun name => s.fields.find? (· == lowerCase name)).elim key .plain

/-- An object with the names of a section's fields in lower case. -/
def Section.named (s : Section) : Json → Json
  | .object entries =>
    .object (entries.foldl (fun named (key, value) =>
      insertEntry (s.fieldKey key) value named) [])
  | data => data

/-- What the variables say of a section; nothing if they say null. -/
def Section.ofVariables (s : Section) (source : String) (vs : Variables) :
    Except Failure (Option Json) :=
  let fields := fieldsOf s.name vs
  match vs.value? (start ++ s.name) with
  | none =>
    match fields with
    | .object [] => .ok none
    | fields => .ok (some (s.named fields))
  | some text =>
    match Json.parse text with
    | .ok .null => .ok none
    | .ok (.object entries) => .ok (some (s.named (Json.merge (.object entries) fields)))
    | .ok data => .ok (some data)
    | .error _ =>
      if s.strict then
        .error (.configuration ("error parsing value for field \"" ++ s.name ++
          "\" from source \"" ++ source ++ "\"") none none)
      else .ok (some (.text text))

def settings (source : String) (vs : Variables) : Except Failure Json := do
  let vs := vs.lowered
  let name : List (Text × Json) := match vs.value? (start ++ "service_name") with
    | some name => [("service_name", .text name)]
    | none => []
  let found ← sections.filterMapM fun s => do
    return (← s.ofVariables source vs).map fun data => ((s.name : Text), data)
  return .object (name ++ found)

end Variables

end QuestionBoard
