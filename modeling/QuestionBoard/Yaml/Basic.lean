import QuestionBoard.Collection.OrderedMap
import QuestionBoard.Yaml.Moment

/-!
YAML documents, and what a plain scalar means: nothing, a truth value, a number, a time or a text. Only the
keys of a mapping that are texts are kept as they are. A document is made of nodes; what these mean is
asked level by level, so of several parts that mean nothing the outermost is found first.
-/

namespace QuestionBoard

/-- A YAML document or a part of one. A key that is no text is `none`. -/
inductive Yaml
  | scalar (data : Json)
  /-- A date or a time. -/
  | moment (text : String)
  | list (items : List Yaml)
  | mapping (entries : List (Option Text × Yaml))

namespace Yaml

mutual

/-- The document as data, without the entries whose keys are no texts. A date or a time is none; it
stands as a list, since no setting takes either. -/
def toJson : Yaml → Json
  | scalar data => data
  | moment text => .array [.text text]
  | list items => .array (itemsToJson items)
  | mapping entries => .object (entriesToJson entries)

def itemsToJson : List Yaml → List Json
  | [] => []
  | item :: rest => toJson item :: itemsToJson rest

def entriesToJson : List (Option Text × Yaml) → List (Text × Json)
  | [] => []
  | (some key, value) :: rest => (key, toJson value) :: entriesToJson rest
  | (none, _) :: rest => entriesToJson rest

end

/-- Whether the document is a mapping with a key that is no text. -/
def hasOtherKeys : Yaml → Bool
  | mapping entries => entries.any fun entry => entry.1.isNone
  | _ => false

/-! ### Plain scalars -/

/-- The texts that mean nothing. -/
def nullWords : List String := ["", "~", "null", "Null", "NULL"]

/-- The texts that mean a truth value. -/
def boolWords : Bool → List String
  | true => ["yes", "Yes", "YES", "true", "True", "TRUE", "on", "On", "ON"]
  | false => ["no", "No", "NO", "false", "False", "FALSE", "off", "Off", "OFF"]

/-- Digits of a base, at least one character, in which underscores count for nothing. -/
def digits? (base : Nat) (cs : List Char) : Option (List Nat) :=
  let ds := (cs.filter (· != '_')).filterMap fun c =>
    (hexDigit? c).bind fun d => if d < base then some d else none
  if cs.isEmpty || ds.length ≠ (cs.filter (· != '_')).length then none else some ds

def valueIn (base : Nat) (digits : List Nat) : Nat := digits.foldl (fun n d => base * n + d) 0

/-- The number that digits write in a base, if there are any. -/
def valueOf (base : Nat) (digits : List Nat) : Except Json.ReadError Nat :=
  if digits.isEmpty then .error (.noDigits base) else .ok (valueIn base digits)

/-- A decimal number that starts with a digit, as its digits. -/
def decimal? (cs : List Char) : Option (List Nat) :=
  if (cs.head?.bind asciiDigit?).isSome then digits? 10 cs else none

/-- A part of a number in base 60: one or two digits, below 60. -/
def sixtieth? (cs : List Char) : Option Nat :=
  match cs.mapM asciiDigit? with
  | some [d] => some d
  | some [d, e] => if d < 6 then some (10 * d + e) else none
  | _ => none

/-- The number that decimal digits write, if they are not too many. -/
def decimalValue (ds : List Nat) : Except Json.ReadError Nat :=
  if maxIntegerDigits < ds.length then .error (.integerTooLong ds.length) else .ok (numberOf ds)

/-- A whole number without its sign. -/
def natural? (cs : List Char) : Option (Except Json.ReadError Nat) :=
  match cs with
  | ['0'] => some (.ok 0)
  | '0' :: 'b' :: rest => (digits? 2 rest).map (valueOf 2)
  | '0' :: 'x' :: rest => (digits? 16 rest).map (valueOf 16)
  | '0' :: rest => (digits? 8 rest).map fun ds => .ok (valueIn 8 ds)
  | _ =>
    match cs.splitOn ':' with
    | [whole] => (decimal? whole).map decimalValue
    | first :: rest => do
      let ds ← decimal? first
      let parts ← rest.mapM sixtieth?
      return (decimalValue ds).map fun n => parts.foldl (fun n d => 60 * n + d) n
    | [] => none

/-- A binary number without its sign: it has a point, and its exponent a sign. -/
def real? (negative : Bool) (cs : List Char) : Option Binary64 :=
  let whole := cs.takeWhile (· != '.')
  let after := (cs.dropWhile (· != '.')).drop 1
  let isExponent := fun c => c == 'e' || c == 'E'
  let places := after.takeWhile fun c => !isExponent c
  let exponent? : Option Int := match after.dropWhile fun c => !isExponent c with
    | [] => some 0
    | _ :: sign :: ds =>
      if (sign == '-' || sign == '+') && !ds.isEmpty then
        (ds.mapM asciiDigit?).map fun ds => if sign == '-' then -(numberOf ds : Int) else numberOf ds
      else none
    | _ => none
  if !cs.contains '.' then none
  else do
    let wholeDigits ← if whole.isEmpty then some [] else decimal? whole
    let placeDigits ← if whole.isEmpty then decimal? places
      else if places.isEmpty then some [] else digits? 10 places
    let exponent ← exponent?
    return .ofDecimal negative (numberOf (wholeDigits ++ placeDigits)) (exponent - placeDigits.length)

/-- What a plain scalar that is no date or time means. The words for a merge and for a usual value are none
that this reader knows. -/
def plainData (text : String) : Except Json.ReadError Json :=
  let (negative, cs) := signed text.toList
  let unsigned := cs.length = text.length
  if ["<<", "="].contains text then .error .malformed
  else if nullWords.contains text then .ok .null
  else if (boolWords true).contains text then .ok (.bool true)
  else if (boolWords false).contains text then .ok (.bool false)
  else if [".inf", ".Inf", ".INF"].contains (String.ofList cs) then .ok (.float (.infinite negative))
  else if [".nan", ".NaN", ".NAN"].contains text then .ok (.float .notANumber)
  else match natural? cs with
    | some n => n.map fun n => .int (if negative then -(n : Int) else n)
    | none =>
      match real? negative cs with
      | some x => .ok (if cs.head? == some '.' && !unsigned then .text text else .float x)
      | none => .ok (.text text)

/-- What a plain scalar means. -/
def plainValue (text : String) : Except Json.ReadError Yaml :=
  match momentFault? text.toList with
  | some none => .ok (.moment text)
  | some (some cause) => .error (.noSuchTime cause)
  | none => (plainData text).map .scalar

/-! ### Nodes -/

/-- What a document is made of, before its plain scalars mean anything. -/
inductive Node
  | plain (text : String)
  | quoted (text : Text)
  | list (items : List Node)
  | mapping (entries : List (Node × Node))

/-- Puts an entry into a mapping: a key that is there already keeps its place. -/
def insertKey (key : Option Text) (value : Yaml) (entries : List (Option Text × Yaml)) :
    List (Option Text × Yaml) :=
  match key with
  | some _ => insertEntry key value entries
  | none => entries ++ [(none, value)]

/-- The key that a scalar is; a collection is none. -/
def asKey : Yaml → Except Json.ReadError (Option Text)
  | scalar (.text key) => .ok (some key)
  | scalar _ | moment _ => .ok none
  | _ => .error .malformed

namespace Node

mutual

def value : Node → Except Json.ReadError Yaml
  | plain text => plainValue text
  | quoted text => .ok (.scalar (.text text))
  | list items => (itemValues items).map .list
  | mapping entries => (entryValues entries []).map .mapping

def itemValues : List Node → Except Json.ReadError (List Yaml)
  | [] => .ok []
  | item :: rest => do return (← item.value) :: (← itemValues rest)

/-- The entries of a mapping, after those that are there. -/
def entryValues : List (Node × Node) → List (Option Text × Yaml) →
    Except Json.ReadError (List (Option Text × Yaml))
  | [], done => .ok done
  | (key, value) :: rest, done => do
    let key ← asKey (← key.value)
    entryValues rest (insertKey key (← value.value) done)

end

/-- The parts of a node, and whether they are keys. -/
def parts : Node → List (Bool × Node)
  | plain _ | quoted _ => []
  | list items => items.map fun item => (false, item)
  | mapping entries => entries.flatMap fun (key, value) => [(true, key), (false, value)]

/-- Why a part means nothing by itself: it is no number that is computed, or a collection as a key. -/
def fault? : Bool × Node → Option Json.ReadError
  | (_, plain text) =>
    match plainValue text with
    | .error e => some e
    | .ok _ => none
  | (_, quoted _) => none
  | (isKey, list _) | (isKey, mapping _) => if isKey then some .malformed else none

/-- The first part of a level that means nothing, or the first below it; each step of `fuel` goes down
one level. -/
def firstFault : Nat → List (Bool × Node) → Option Json.ReadError
  | _, [] => none
  | 0, _ => none
  | fuel + 1, level =>
    level.findSome? fault? <|> firstFault fuel (level.flatMap fun part => part.2.parts)

end Node

end Yaml

end QuestionBoard
