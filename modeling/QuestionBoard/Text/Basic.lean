/-!
Texts as the program handles them. A character beyond U+FFFF is a pair of code units in UTF-16, and
escapes may write half of a pair alone: such a half is no character, but it may stand in a text, which
is kept, compared and shown like any other, and only cannot be written in UTF-8. Two halves that are
side by side stay two.

What comes from outside as bytes is characters alone, a `String`: the content of files, the paths of files of
settings, variables, command lines and requests. A file or a variable whose bytes are no UTF-8 has no text
here. Data that are read from texts, and what is made of them, may have halves.
-/

namespace QuestionBoard

/-- Half of a pair of code units. -/
structure Half where
  offset : Fin 0x800
  deriving DecidableEq, Repr

namespace Half

def code (h : Half) : Nat := 0xD800 + h.offset

def ofCode? (n : Nat) : Option Half :=
  if h : 0xD800 ≤ n ∧ n < 0xE000 then some ⟨⟨n - 0xD800, by omega⟩⟩ else none

/-- Whether it is the first half of a pair. -/
def isHigh (h : Half) : Bool := h.offset.val < 0x400

/-- The character of a pair. -/
def joined? (high low : Half) : Option Char :=
  if high.isHigh && !low.isHigh then
    some (Char.ofNat (0x10000 + high.offset * 0x400 + (low.offset - 0x400)))
  else none

end Half

/-- What stands at one place of a text. -/
inductive CodePoint
  | char (c : Char)
  | half (h : Half)
  deriving DecidableEq, Repr

/-- The point with a code, if a code can be so great. -/
def CodePoint.ofCode? (n : Nat) : Option CodePoint :=
  match Half.ofCode? n with
  | some h => some (.half h)
  | none => if n < 0x110000 then some (.char (Char.ofNat n)) else none

def CodePoint.code : CodePoint → Nat
  | .char c => c.toNat
  | .half h => h.code

/-- Texts: characters alone, or characters before a half and the text after it. -/
inductive Text
  | plain (s : String)
  | broken (before : String) (half : Half) (rest : Text)
  deriving DecidableEq, Inhabited, Repr

namespace Text

instance : Coe String Text := ⟨plain⟩

def append : Text → Text → Text
  | plain s, plain t => plain (s ++ t)
  | plain s, broken before h rest => broken (s ++ before) h rest
  | broken before h rest, t => broken before h (append rest t)

instance : Append Text := ⟨append⟩

/-- The characters and the halves of a text, in order. -/
def points : Text → List CodePoint
  | plain s => s.toList.map .char
  | broken before h rest => before.toList.map .char ++ .half h :: rest.points

/-- The text of characters, in reverse, and of the characters and halves after them. -/
def gathered (chars : List Char) : List CodePoint → Text
  | [] => plain (String.ofList chars.reverse)
  | .char c :: rest => gathered (c :: chars) rest
  | .half h :: rest => broken (String.ofList chars.reverse) h (gathered [] rest)

/-- The text of characters and halves in order. -/
def ofPoints : List CodePoint → Text := gathered []

/-- How many characters and halves there are. -/
def length : Text → Nat
  | plain s => s.length
  | broken before _ rest => before.length + (rest.length + 1)

def string? : Text → Option String
  | plain s => some s
  | broken _ _ _ => none

/-- The characters of a text that is all characters. Another text has none here, as no number and no name
has a half in it. -/
def chars : Text → List Char
  | plain s => s.toList
  | broken _ _ _ => []

/-- The text with every half as three replacement characters, one for each byte that would encode it. -/
def shown : Text → String
  | plain s => s
  | broken before _ rest => before ++ "\uFFFD\uFFFD\uFFFD" ++ rest.shown

/-- The pieces of a text between the places of a character. -/
def splitOn (c : Char) (t : Text) : List Text := (t.points.splitOn (.char c)).map ofPoints

/-- Characters and halves, with the character of a pair wherever its halves are side by side. -/
def joinedPoints : List CodePoint → List CodePoint
  | .half high :: .half low :: rest =>
    match high.joined? low with
    | some c => .char c :: joinedPoints rest
    | none => .half high :: joinedPoints (.half low :: rest)
  | p :: rest => p :: joinedPoints rest
  | [] => []

/-- The text with every pair of halves as its character, which is what a writer and a reader of UTF-16
units make of it. -/
def paired (t : Text) : Text := ofPoints (joinedPoints t.points)

/-- Texts with another one between each two. -/
def joined (separator : Text) : List Text → Text
  | [] => ""
  | [t] => t
  | t :: rest => t ++ separator ++ joined separator rest

/-- How many halves follow one another at the start of a text. -/
def leadingHalves : Text → Nat
  | plain _ => 0
  | broken before _ rest => if before == "" then rest.leadingHalves + 1 else 0

end Text

end QuestionBoard
