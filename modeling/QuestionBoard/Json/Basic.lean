import QuestionBoard.Number.Decimal
import QuestionBoard.Text.Quoted
import QuestionBoard.Collection.OrderedMap

/-!
Data as JSON has it, whole numbers and binary64 numbers told apart and the entries of an object in
order. `Json.display` is the form in which messages show data, `Json.equals` compares data as values, and
`Json.isTruthy` says which data count as present. Data may be nested to any depth, and no reader or writer
of them gives up for that.
-/

namespace QuestionBoard

/-- The most digits with which a whole number is read and written. -/
def maxIntegerDigits : Nat := 4300

/-- A piece of data. -/
inductive Json
  | null
  | bool (value : Bool)
  | int (value : Int)
  | float (value : Binary64)
  | text (value : Text)
  | array (items : List Json)
  | object (entries : List (Text × Json))
  deriving Inhabited, BEq

namespace Json

/-- The object that entries make; of equal keys the last value stands at the first place. -/
def ofEntries (entries : List (Text × Json)) : Json :=
  .object (entries.foldl (fun object (key, value) => insertEntry key value object) [])

def get? (key : Text) : Json → Option Json
  | .object entries => entries.lookup key
  | _ => none

def kindName : Json → String
  | .null => "NoneType"
  | .bool _ => "bool"
  | .int _ => "int"
  | .float _ => "float"
  | .text _ => "str"
  | .array _ => "list"
  | .object _ => "dict"

/-- Whether data count as present: null, false, zero and whatever is empty do not. -/
def isTruthy : Json → Bool
  | .null => false
  | .bool b => b
  | .int n => n != 0
  | .float x => !x.sameValue (.zero false)
  | .text s => s != ""
  | .array items => !items.isEmpty
  | .object entries => !entries.isEmpty

/-! ### Long numbers -/

mutual

/-- Whether a whole number in the data has more digits than are written. -/
def hasLongInteger : Json → Bool
  | .int n => decide (maxIntegerDigits < (Nat.toDigits 10 n.natAbs).length)
  | .array items => anyLongItem items
  | .object entries => anyLongEntry entries
  | _ => false

/-- Whether an item has such a number. -/
def anyLongItem : List Json → Bool
  | [] => false
  | item :: rest => item.hasLongInteger || anyLongItem rest

/-- Whether the value of an entry has such a number. -/
def anyLongEntry : List (Text × Json) → Bool
  | [] => false
  | (_, value) :: rest => value.hasLongInteger || anyLongEntry rest

end

/-! ### Data in messages -/

mutual

/-- Data inside other data: text stands in quotes. -/
def quotedDisplay : Json → String
  | .null => "None"
  | .bool b => if b then "True" else "False"
  | .int n => decimalText n
  | .float x => x.display
  | .text s => quoted s
  | .array items => "[" ++ ", ".intercalate (displayItems items) ++ "]"
  | .object entries => "\x7b" ++ ", ".intercalate (displayEntries entries) ++ "\x7d"

def displayItems : List Json → List String
  | [] => []
  | item :: rest => item.quotedDisplay :: displayItems rest

def displayEntries : List (Text × Json) → List String
  | [] => []
  | (key, value) :: rest => (quoted key ++ ": " ++ value.quotedDisplay) :: displayEntries rest

end

/-- Data as a message shows them: text as it is. -/
def display : Json → Text
  | .text s => s
  | data => data.quotedDisplay

/-! ### Equality as values -/

/-- Whether a whole number and a binary64 number have the same value. -/
def intEqualsFloat (n : Int) (x : Binary64) : Bool := x.isWhole && x.truncate? == some n

/-- The whole number that a truth value or a whole number counts as. -/
def asInt? : Json → Option Int
  | .bool b => some (if b then 1 else 0)
  | .int n => some n
  | _ => none

mutual

/-- Whether data are equal as values: numbers by value, truth values as 0 and 1, objects whatever
the order of their entries. -/
def equals : Json → Json → Bool
  | .null, .null => true
  | .text s, .text t => s == t
  | .array xs, .array ys => equalItems xs ys
  | .object xs, .object ys => xs.length == ys.length && coveredBy xs ys
  | .float x, .float y => x.sameValue y
  | .float x, y => match y.asInt? with
    | some n => intEqualsFloat n x
    | none => false
  | x, .float y => match x.asInt? with
    | some n => intEqualsFloat n y
    | none => false
  | x, y => match x.asInt?, y.asInt? with
    | some m, some n => m == n
    | _, _ => false

def equalItems : List Json → List Json → Bool
  | [], [] => true
  | x :: xs, y :: ys => equals x y && equalItems xs ys
  | _, _ => false

/-- Whether each entry has an equal one with its key. -/
def coveredBy : List (Text × Json) → List (Text × Json) → Bool
  | [], _ => true
  | (key, value) :: rest, entries =>
    (match entries.lookup key with
      | some other => equals value other
      | none => false) && coveredBy rest entries

end

end Json

end QuestionBoard
