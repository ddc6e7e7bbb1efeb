import QuestionBoard.Collection.OrderedMap
import QuestionBoard.Json.Basic

/-!
Laying one object over another. Where both have an object under a key, these are merged in turn;
elsewhere the upper value stands. Keys stay in the order of the lower object, new ones follow.
-/

namespace QuestionBoard

namespace Json

mutual

def laidOver (lower : Option Json) : Json → Json
  | .object upper =>
    match lower with
    | some (.object entries) => .object (mergedEntries entries upper)
    | _ => .object upper
  | data => data

/-- Entries with others laid over them. -/
def mergedEntries (lower : List (Text × Json)) : List (Text × Json) → List (Text × Json)
  | [] => lower
  | (key, value) :: rest =>
    mergedEntries (insertEntry key (laidOver (lower.lookup key) value) lower) rest

end

def merge (lower upper : Json) : Json := laidOver (some lower) upper

/-- Objects laid over one another, each over those before it. -/
def layered (layers : List Json) : Json := layers.foldl merge (.object [])

end Json

end QuestionBoard
