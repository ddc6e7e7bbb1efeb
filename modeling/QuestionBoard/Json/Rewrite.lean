import QuestionBoard.Json.Basic

/-!
Replacing parts of data. A rule is tried on the data as a whole first, and on the parts of what it
leaves alone. Pairing puts the character of two halves in their place, in every text and every key.
-/

namespace QuestionBoard

namespace Json

mutual

/-- Data with every part replaced for which a rule has something else. -/
def rewritten (rule : Json → Option Json) (data : Json) : Json :=
  match rule data, data with
  | some other, _ => other
  | none, .array items => .array (rewrittenItems rule items)
  | none, .object entries => .object (rewrittenEntries rule entries)
  | none, data => data

/-- The items of an array with parts replaced. -/
def rewrittenItems (rule : Json → Option Json) : List Json → List Json
  | [] => []
  | item :: rest => rewritten rule item :: rewrittenItems rule rest

/-- The entries of an object with parts replaced. -/
def rewrittenEntries (rule : Json → Option Json) : List (Text × Json) → List (Text × Json)
  | [] => []
  | (key, value) :: rest => (key, rewritten rule value) :: rewrittenEntries rule rest

end

mutual

def paired : Json → Json
  | .text t => .text t.paired
  | .array items => .array (pairedItems items)
  | .object entries => ofEntries (pairedEntries entries)
  | data => data

/-- The items of an array with the texts in them paired. -/
def pairedItems : List Json → List Json
  | [] => []
  | item :: rest => paired item :: pairedItems rest

/-- The entries of an object with the texts in them paired. -/
def pairedEntries : List (Text × Json) → List (Text × Json)
  | [] => []
  | (key, value) :: rest => (key.paired, paired value) :: pairedEntries rest

end

end Json

end QuestionBoard
