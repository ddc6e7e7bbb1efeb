import QuestionBoard.Failure.Basic
import QuestionBoard.Text.Class
import QuestionBoard.Json.Reader

/-!
Identifiers of questions. An identifier is any text that is not empty; a relational store needs one
that is the decimal form of a 32-bit key, which `QuestionId.toKey` reads.
-/

namespace QuestionBoard

/-- The identifier of a question. -/
structure QuestionId where
  text : Text
  nonempty : text ≠ ""
  deriving DecidableEq

/-- Reads ASCII digits, at least one and nothing else, up to the number of digits that are read. -/
def readDigits? (cs : List Char) : Option (Except Failure Nat) :=
  let digits := cs.filterMap asciiDigit?
  if cs.isEmpty || digits.length ≠ cs.length then none
  else if maxIntegerDigits < digits.length then some (.error (.integerTooLong digits.length))
  else some (.ok (numberOf digits))

namespace QuestionId

def ofText (t : Text) : Except Failure QuestionId :=
  if h : t = "" then .error (.parse "question id cannot be empty" (.text t)) else .ok ⟨t, h⟩

/-- The identifier that a piece of data is; it has to be text. -/
def ofData : Json → Except Failure QuestionId
  | .text t => ofText t
  | data => .error (.parse "question id must be a string" data)

/-- The identifier that shows a key. -/
def ofKeyData (key : Json) : Except Failure QuestionId := ofText key.display

/-- The identifier that a text or a key gives. -/
def of (data : Json) : Except Failure QuestionId :=
  match data with
  | .int _ | .bool _ => ofKeyData data
  | _ => ofData data

theorem decimalText_ne_empty (n : Int) : decimalText n ≠ "" := by
  have digits_ne : ∀ m : Nat, decimalDigits m ≠ "" := by
    intro m h
    have := congrArg String.toList h
    simp [decimalDigits] at this
  unfold decimalText
  split
  · intro h
    have := congrArg String.toList h
    simp at this
  · exact digits_ne _

/-- The identifier of the record with a key. -/
def ofKey (key : Int) : QuestionId :=
  ⟨decimalText key, fun h => decimalText_ne_empty key (Text.plain.inj h)⟩

/-- The least and the greatest key. -/
def keyBounds : Int × Int := (-2147483648, 2147483647)

/-- Whether a text starts with a minus sign, and the text without its sign. -/
def signed : List Char → Bool × List Char
  | '-' :: rest => (true, rest)
  | '+' :: rest => (false, rest)
  | cs => (false, cs)

/-- The key that an identifier writes in decimal, with or without a sign. -/
def toKey (id : QuestionId) : Except Failure Int := do
  let refusal := fun (reason : String) =>
    Failure.parse ("question id " ++ quoted id.text ++ reason) (.text id.text)
  let (negative, digits) := signed id.text.chars
  match readDigits? digits with
  | none => throw (refusal " is not an integer")
  | some read =>
    let n ← read
    let key : Int := if negative then -(n : Int) else n
    if keyBounds.1 ≤ key ∧ key ≤ keyBounds.2 then return key
    else throw (refusal " is out of range")

end QuestionId

end QuestionBoard
