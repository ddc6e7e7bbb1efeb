import QuestionBoard.Field.Checked
import QuestionBoard.Json.Reader
import QuestionBoard.Text.Case

/-!
Readers of fields: from data to values, by the rules that fields are held to. Numbers and truth
values may come as texts, and a truth value may stand for a number. There is a reader for each kind of field
that settings and questions have, and for no other.
-/

namespace QuestionBoard

namespace Field

abbrev Reader (α : Type) := Json → Checked α

/-! ### Text -/

def text : Reader Text
  | .text t => .valid t
  | _ => .breaks .textType

def characters : Reader String
  | .text (.plain s) => .valid s
  | .text (.broken _ _ _) => .breaks .textUnicode
  | _ => .breaks .textType

def textUpTo (limit : Nat) : Reader String := fun data =>
  (characters data).andThen fun s => if s.length ≤ limit then .valid s else .breaks (.textTooLong limit)

/-! ### Numbers -/

/-- The text without its underscores, each of which has to stand between two other characters. -/
def joined? (cs : List Char) : Option (List Char) :=
  let parts := cs.splitOn '_'
  if parts.any List.isEmpty then none else some parts.flatten

/-- The text before a point after which there are no digits but zeros. -/
def beforeZeros (cs : List Char) : List Char :=
  if ((cs.dropWhile (· != '.')).drop 1).all (· == '0') then cs.takeWhile (· != '.') else cs

/-- The whole number that a text writes. -/
def intOfText (s : String) : Checked Int :=
  let (negative, cs) := signed (trimmed isWhiteSpace s.toList)
  match joined? (beforeZeros cs) with
  | none => .breaks .intParsing
  | some cs =>
    let digits := cs.filterMap asciiDigit?
    if digits.isEmpty || digits.length ≠ cs.length then .breaks .intParsing
    else if maxIntegerDigits < digits.length then .breaks .intParsingSize
    else .valid (if negative then -(numberOf digits : Int) else numberOf digits)

/-- The whole number that a binary number is, if it fits into a word. -/
def intOfFloat (x : Binary64) : Checked Int :=
  match x.truncate? with
  | none => .breaks .finite
  | some n =>
    if !x.isWhole then .breaks .intFromFloat
    else if -Nat.pow 2 63 < n ∧ n < Nat.pow 2 63 then .valid n
    else .breaks .intParsingSize

/-- Reads a whole number. -/
def int : Reader Int
  | .int n => .valid n
  | .bool b => .valid (if b then 1 else 0)
  | .float x => intOfFloat x
  | .text (.plain s) => intOfText s
  | .text (.broken _ _ _) => .breaks .textUnicode
  | _ => .breaks .intType

/-- The binary number that a text without blanks writes. -/
def floatOfDigits? (cs : List Char) : Option Binary64 :=
  let (negative, cs) := signed cs
  let word := String.ofList (cs.map Char.toLower)
  if word == "inf" || word == "infinity" then some (.infinite negative)
  else if word == "nan" then some .notANumber
  else
    let (digits, rest) := Json.spanDigits cs
    let (places, rest) := match rest with
      | '.' :: more => Json.spanDigits more
      | _ => ([], rest)
    let (exponent, rest) := Json.readExponent rest
    if (digits ++ places).isEmpty || !rest.isEmpty then none
    else some (.ofDecimal negative (numberOf (digits ++ places)) (exponent.getD 0 - places.length))

def floatOfText (s : String) : Checked Binary64 :=
  let plain := floatOfDigits? (trimmed isWhiteSpace s.toList)
  match plain <|> (joined? s.toList).bind floatOfDigits? with
  | some x => .valid x
  | none => .breaks .floatParsing

/-- Reads a binary number. -/
def float : Reader Binary64
  | .float x => .valid x
  | .bool b => .valid (.ofInt (if b then 1 else 0))
  | .int n =>
    match Binary64.ofInt n with
    | .infinite _ => .breaks .floatType
    | x => .valid x
  | .text (.plain s) => floatOfText s
  | .text (.broken _ _ _) => .breaks .textUnicode
  | _ => .breaks .floatType

/-! ### Truth values -/

/-- The words for a truth value, for each of the two. -/
def boolWords : Bool → List String
  | true => ["1", "on", "t", "true", "y", "yes"]
  | false => ["0", "off", "f", "false", "n", "no"]

/-- Reads a truth value. -/
def bool : Reader Bool
  | .bool b => .valid b
  | .int n => if n = 1 then .valid true else if n = 0 then .valid false else .breaks .boolParsing
  | .float x =>
    if Json.intEqualsFloat 1 x then .valid true
    else if Json.intEqualsFloat 0 x then .valid false
    else .breaks .boolType
  | .text (.plain s) =>
    if (boolWords true).any (equalIgnoringCase s) then .valid true
    else if (boolWords false).any (equalIgnoringCase s) then .valid false
    else .breaks .boolParsing
  | .text (.broken _ _ _) => .breaks .textUnicode
  | _ => .breaks .boolType

/-! ### Bounds, lists and what may be absent -/

/-- Reads a whole number that is not below a bound. -/
def intFrom (bound : Int) : Reader Int := fun data =>
  (int data).andThen fun n => if bound ≤ n then .valid n else .breaks (.atLeast bound)

def positiveFloat : Reader Binary64 := fun data =>
  (float data).andThen fun x => if x.isPositive then .valid x else .breaks (.above 0)

def optional {α : Type} (read : Reader α) : Reader (Option α)
  | .null => .valid none
  | data => some <$> read data

def items {α : Type} (read : Reader α) (position : Nat) : List Json → Checked (List α)
  | [] => .valid []
  | item :: rest =>
    List.cons <$> (read item).within (.index position) <*> items read (position + 1) rest

def list {α : Type} (read : Reader α) : Reader (List α)
  | .array data => items read 0 data
  | _ => .breaks .listType

/-- Reads one certain text. -/
def literal (expected : String) : Reader Unit
  | .text (.plain s) => if s == expected then .valid () else .breaks (.literal expected)
  | .text (.broken _ _ _) => .breaks .textUnicode
  | _ => .breaks (.literal expected)

/-! ### Objects -/

/-- Reads the field of an object under a key; an absent one has its usual value. -/
def ofKey {α : Type} (key : String) (read : Reader α) (usual : α) (data : Json) : Checked α :=
  match data.get? key with
  | none => .valid usual
  | some value => (read value).within (.name key)

/-- Reads the field of an object under a key, which must be there. -/
def required {α : Type} (key : String) (read : Reader α) (data : Json) : Checked α :=
  match data.get? key with
  | none => (Checked.breaks .missing : Checked α).within (.name key)
  | some value => (read value).within (.name key)

def sectionOf {α : Type} (kind : String) (read : Reader α) : Reader α
  | .object entries => read (.object entries)
  | _ => .breaks (.sectionType kind)

/-- Reads an object whose kind stands under a key. -/
def byTag {α : Type} (key : String) (cases : List (String × Reader α)) : Reader α
  | .object entries =>
    match Json.get? key (.object entries) with
    | none => .breaks (.tagMissing key)
    | some tag =>
      let unknown := .breaks (.tagUnknown tag.display.shown key (cases.map Prod.fst))
      match tag with
      | .text (.plain name) =>
        match cases.lookup name with
        | some read => (read (.object entries)).within (.name name)
        | none => unknown
      | _ => unknown
  | _ => .breaks .objectType

end Field

end QuestionBoard
