import QuestionBoard.Json.Basic
import QuestionBoard.Text.Class

/-!
Reading JSON text. Besides the standard grammar the words `NaN`, `Infinity` and `-Infinity` are
numbers, and of equal keys the last value counts. A whole number of more than 4300 digits is
refused with a cause of its own, since turning it into a number would cost too much.
-/

namespace QuestionBoard

namespace Json

/-- Why a text is not read: it breaks the grammar, or it has a whole number that is not computed, for
the number of its digits or since it has none of its base, or it has a date or a time that there is not, or
it has an escape with a code beyond all codes. -/
inductive ReadError
  | malformed
  | integerTooLong (digits : Nat)
  | noDigits (base : Nat)
  | noSuchTime (cause : String)
  | codeTooGreat (code : Nat)
  deriving DecidableEq

/-- The blanks between tokens. -/
def isSeparator (c : Char) : Bool := c == ' ' || c == '\t' || c == '\n' || c == '\r'

/-- The text after leading blanks. -/
def skipBlanks (cs : List Char) : List Char := cs.dropWhile isSeparator

def codeUnit? (a b c d : Char) : Option Nat := do
  return ((← hexDigit? a) * 16 + (← hexDigit? b)) * 256 + (← hexDigit? c) * 16 + (← hexDigit? d)

def letterEscape? : Char → Option Char
  | '"' => some '"'
  | '\\' => some '\\'
  | '/' => some '/'
  | 'b' => some '\x08'
  | 'f' => some '\x0c'
  | 'n' => some '\n'
  | 'r' => some '\r'
  | 't' => some '\t'
  | _ => none

/-- The character of two code units, if they are a pair. -/
def pairedUnits? (high low : Nat) : Option Char := do (← Half.ofCode? high).joined? (← Half.ofCode? low)

/-- What one code unit writes: a character, or half of a pair. -/
def singleUnit (unit : Nat) : CodePoint :=
  match Half.ofCode? unit with
  | some h => .half h
  | none => .char (Char.ofNat unit)

/-- Reads the rest of a string, up to its closing quote. -/
def readString : List Char → Option (List CodePoint × List Char)
  | [] => none
  | '"' :: rest => some ([], rest)
  | '\\' :: 'u' :: a :: b :: c :: d :: '\\' :: 'u' :: e :: f :: g :: h :: rest => do
    let high ← codeUnit? a b c d
    match (codeUnit? e f g h).bind (pairedUnits? high) with
    | some char => do
      let (points, rest) ← readString rest
      return (.char char :: points, rest)
    | none => do
      let (points, rest) ← readString ('\\' :: 'u' :: e :: f :: g :: h :: rest)
      return (singleUnit high :: points, rest)
  | '\\' :: 'u' :: a :: b :: c :: d :: rest => do
    let unit ← codeUnit? a b c d
    let (points, rest) ← readString rest
    return (singleUnit unit :: points, rest)
  | '\\' :: letter :: rest => do
    let char ← letterEscape? letter
    let (points, rest) ← readString rest
    return (.char char :: points, rest)
  | c :: rest => do
    if c == '\\' || c.toNat < 0x20 then none
    let (points, rest) ← readString rest
    return (.char c :: points, rest)

/-- The leading ASCII digits, as values, and what follows them. -/
def spanDigits (cs : List Char) : List Nat × List Char :=
  let ds := cs.takeWhile fun c => (asciiDigit? c).isSome
  (ds.filterMap asciiDigit?, cs.drop ds.length)

/-- Reads the digits after a point, if there are any. -/
def readPlaces : List Char → Option (List Nat) × List Char
  | '.' :: rest => match spanDigits rest with
    | ([], _) => (none, '.' :: rest)
    | (ds, rest) => (some ds, rest)
  | cs => (none, cs)

def readExponent : List Char → Option Int × List Char
  | c :: rest =>
    if c == 'e' || c == 'E' then
      let (negative, digits) := signed rest
      match spanDigits digits with
      | ([], _) => (none, c :: rest)
      | (ds, rest) => (some (if negative then -(numberOf ds : Int) else numberOf ds), rest)
    else (none, c :: rest)
  | [] => (none, [])

/-- The digits before a point: a zero by itself, or all that are there. -/
def readWhole : List Char → List Nat × List Char
  | '0' :: rest => ([0], rest)
  | cs => spanDigits cs

def readNumber (negative : Bool) (cs : List Char) : Except ReadError (Json × List Char) :=
  let (digits, rest) := readWhole cs
  if digits.isEmpty then throw .malformed
  else
    let (places, rest) := readPlaces rest
    let (exponent, rest) := readExponent rest
    if places.isNone && exponent.isNone then
      if maxIntegerDigits < digits.length then throw (.integerTooLong digits.length)
      else
        let n : Int := numberOf digits
        return (.int (if negative then -n else n), rest)
    else
      let places := places.getD []
      let number := Binary64.ofDecimal negative (numberOf (digits ++ places))
        (exponent.getD 0 - places.length)
      return (.float number, rest)

/-- Takes a word off the front. -/
def dropWord? (word : String) (cs : List Char) : Option (List Char) :=
  if word.toList.isPrefixOf cs then some (cs.drop word.length) else none

/-- Reads a value that is a word or a number. -/
def readScalar (cs : List Char) : Except ReadError (Json × List Char) :=
  let words : List (String × Json) :=
    [("null", .null), ("true", .bool true), ("false", .bool false), ("NaN", .float .notANumber),
      ("Infinity", .float (.infinite false)), ("-Infinity", .float (.infinite true))]
  match words.findSome? fun (word, value) => (dropWord? word cs).map fun rest => (value, rest) with
  | some found => return found
  | none => match cs with
    | '-' :: rest => readNumber true rest
    | _ => readNumber false cs

mutual

/-- Reads a value at the front of a text; each step of `fuel` reads at least one character. -/
def readValue : Nat → List Char → Except ReadError (Json × List Char)
  | 0, _ => throw .malformed
  | fuel + 1, cs => match cs with
    | '"' :: rest => match readString rest with
      | some (points, rest) => return (.text (.ofPoints points), rest)
      | none => throw .malformed
    | '[' :: rest => match skipBlanks rest with
      | ']' :: rest => return (.array [], rest)
      | rest => do
        let (items, rest) ← readItems fuel rest
        return (.array items, rest)
    | '\x7b' :: rest => match skipBlanks rest with
      | '\x7d' :: rest => return (.object [], rest)
      | rest => do
        let (entries, rest) ← readEntries fuel rest
        return (ofEntries entries, rest)
    | cs => readScalar cs

/-- Reads the items of an array and its closing bracket. -/
def readItems : Nat → List Char → Except ReadError (List Json × List Char)
  | 0, _ => throw .malformed
  | fuel + 1, cs => do
    let (item, rest) ← readValue fuel (skipBlanks cs)
    match skipBlanks rest with
    | ']' :: rest => return ([item], rest)
    | ',' :: rest =>
      let (items, rest) ← readItems fuel rest
      return (item :: items, rest)
    | _ => throw .malformed

/-- Reads the entries of an object and its closing brace. -/
def readEntries : Nat → List Char → Except ReadError (List (Text × Json) × List Char)
  | 0, _ => throw .malformed
  | fuel + 1, cs => match skipBlanks cs with
    | '"' :: rest => match readString rest with
      | none => throw .malformed
      | some (key, rest) => match skipBlanks rest with
        | ':' :: rest => do
          let (value, rest) ← readValue fuel (skipBlanks rest)
          match skipBlanks rest with
          | '\x7d' :: rest => return ([(Text.ofPoints key, value)], rest)
          | ',' :: rest =>
            let (entries, rest) ← readEntries fuel rest
            return ((Text.ofPoints key, value) :: entries, rest)
          | _ => throw .malformed
        | _ => throw .malformed
    | _ => throw .malformed

end

/-- Reads a text that holds one value and blanks around it. -/
def parse (text : String) : Except ReadError Json := do
  let cs := text.toList
  let (value, rest) ← readValue (2 * cs.length + 2) (skipBlanks cs)
  if (skipBlanks rest).isEmpty then return value else throw .malformed

end Json

end QuestionBoard
