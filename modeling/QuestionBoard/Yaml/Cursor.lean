import QuestionBoard.Yaml.Basic

/-!
A place in a YAML text, and the pieces that are read there: blanks and comments, plain scalars and
scalars in quotes.
-/

namespace QuestionBoard

namespace Yaml

/-- What is left of a text, with the line and column where it starts. -/
structure Cursor where
  rest : List Char
  line : Nat := 0
  column : Nat := 0

/-- Whether a character ends a line. -/
def isBreak (c : Char) : Bool := c == '\n' || c == '\x85' || c == '\u2028' || c == '\u2029'

/-- Whether a text starts with a blank, with the end of a line or not at all. -/
def startsBlank (cs : List Char) : Bool :=
  match cs with
  | [] => true
  | c :: _ => c == ' ' || c == '\t' || isBreak c

namespace Cursor

/-- The place after a number of characters. -/
def advance (c : Cursor) : Nat → Cursor
  | 0 => c
  | n + 1 =>
    match c.rest with
    | [] => c
    | x :: rest =>
      let next : Cursor := if isBreak x then ⟨rest, c.line + 1, 0⟩ else ⟨rest, c.line, c.column + 1⟩
      next.advance n

/-- The place at which a text that ends the present one starts. -/
def moveTo (c : Cursor) (rest : List Char) : Cursor := c.advance (c.rest.length - rest.length)

/-- What follows blanks and, after them or in a comment, the rest of the line. -/
def skipFrom (inComment : Bool) (line column : Nat) : List Char → Cursor
  | [] => ⟨[], line, column⟩
  | x :: rest =>
    if isBreak x then skipFrom false (line + 1) 0 rest
    else if inComment then skipFrom true line (column + 1) rest
    else if x == ' ' then skipFrom false line (column + 1) rest
    else if x == '#' then skipFrom true line (column + 1) rest
    else ⟨x :: rest, line, column⟩

/-- The place of the next piece. -/
def skip (c : Cursor) : Cursor := skipFrom false c.line c.column c.rest

/-- Whether a document starts or ends here. -/
def atMarker (c : Cursor) : Bool :=
  c.column == 0 && (c.rest.take 3 == "---".toList || c.rest.take 3 == "...".toList) &&
    startsBlank (c.rest.drop 3)

/-- Whether no piece of the document follows. -/
def atEnd (c : Cursor) : Bool := c.rest.isEmpty || c.atMarker

/-- Whether an item of a block list starts here. -/
def atDash (c : Cursor) : Bool := c.rest.head? == some '-' && startsBlank (c.rest.drop 1)

end Cursor

/-! ### Plain scalars -/

/-- The characters that have a meaning of their own inside brackets. -/
def flowMarks : List Char := [',', '[', ']', '{', '}']

def endsKey (inFlow : Bool) (rest : List Char) : Bool :=
  startsBlank rest || (inFlow && match rest with
    | c :: _ => flowMarks.contains c
    | [] => false)

/-- Whether a plain scalar can start with a text. -/
def startsPlain (inFlow : Bool) : List Char → Bool
  | [] => false
  | c :: rest =>
    if c == '-' then !startsBlank rest
    else if c == '?' || c == ':' then !inFlow && !startsBlank rest
    else !(startsBlank (c :: rest) || flowMarks.contains c ||
      ['#', '&', '*', '!', '|', '>', '\'', '"', '%', '@', '\x60'].contains c)

/-- The part of a line that belongs to a plain scalar, and what follows. -/
def plainLine (inFlow : Bool) : List Char → List Char × List Char
  | [] => ([], [])
  | c :: rest =>
    let after := rest.dropWhile (· == ' ')
    if isBreak c || c == '\t' then ([], c :: rest)
    else if c == ':' && endsKey inFlow rest then ([], c :: rest)
    else if inFlow && (c == '?' || flowMarks.contains c) then ([], c :: rest)
    else if c == ' ' && (after.head? == some '#' || startsBlank after) then ([], c :: rest)
    else
      let (line, left) := plainLine inFlow rest
      (c :: line, left)

def withoutEndBlanks (cs : List Char) : List Char := (cs.reverse.dropWhile (· == ' ')).reverse

/-- What stands for a number of line ends inside a scalar. -/
def folded (breaks : Nat) : List Char := if breaks ≤ 1 then [' '] else List.replicate (breaks - 1) '\n'

/-- The further lines of a plain scalar, which start at a column or after it. -/
def plainLines (inFlow : Bool) (column : Nat) : Nat → Cursor → List Char × Cursor
  | 0, c => ([], c)
  | fuel + 1, c =>
    let blanks := c.rest.takeWhile fun x => x == ' ' || isBreak x
    let next := c.moveTo (c.rest.drop blanks.length)
    let breaks := next.line - c.line
    if breaks = 0 || next.atEnd || next.rest.head? == some '#' || (!inFlow && next.column < column) then
      ([], c)
    else
      match plainLine inFlow next.rest with
      | ([], _) => ([], c)
      | (line, left) =>
        let (more, c) := plainLines inFlow column fuel (next.moveTo left)
        (folded breaks ++ withoutEndBlanks line ++ more, c)

/-! ### Scalars in quotes -/

/-- The line ends and the blanks around them, as a number of line ends, and what follows. -/
def blankLines (cs : List Char) : Nat × List Char :=
  let blanks := cs.takeWhile fun c => c == ' ' || c == '\t' || isBreak c
  ((blanks.filter isBreak).length, cs.drop blanks.length)

/-- A character or a half by the digits of its code. -/
def codedPoint (width : Nat) (cs : List Char) : Except Json.ReadError (CodePoint × List Char) :=
  match (cs.take width).mapM hexDigit? with
  | none => .error .malformed
  | some digits =>
    let code := digits.foldl (fun n d => 16 * n + d) 0
    if digits.length ≠ width then .error .malformed
    else match CodePoint.ofCode? code with
      | some p => .ok (p, cs.drop width)
      | none => .error (.codeTooGreat code)

/-- The characters that letters stand for after a backslash. -/
def escapes : List (Char × Char) :=
  [('0', '\x00'), ('a', '\x07'), ('b', '\x08'), ('t', '\t'), ('\t', '\t'), ('n', '\n'), ('v', '\x0b'),
    ('f', '\x0c'), ('r', '\r'), ('e', '\x1b'), (' ', ' '), ('"', '"'), ('\\', '\\'), ('/', '/'),
    ('N', '\x85'), ('_', '\xa0'), ('L', '\u2028'), ('P', '\u2029')]

/-- Characters as points of a text. -/
def asPoints (cs : List Char) : List CodePoint := cs.map .char

def readEscape : List Char → Except Json.ReadError (List CodePoint × List Char)
  | 'x' :: rest => (codedPoint 2 rest).map fun (p, rest) => ([p], rest)
  | 'u' :: rest => (codedPoint 4 rest).map fun (p, rest) => ([p], rest)
  | 'U' :: rest => (codedPoint 8 rest).map fun (p, rest) => ([p], rest)
  | c :: rest =>
    if isBreak c then
      let (breaks, rest) := blankLines rest
      .ok (List.replicate breaks (.char '\n'), rest)
    else match escapes.lookup c with
      | some meant => .ok ([.char meant], rest)
      | none => .error .malformed
  | [] => .error .malformed

/-- Reads a scalar after its opening quote, with as much fuel as there are characters. -/
def readQuoted (quote : Char) : Nat → List Char → Except Json.ReadError (List CodePoint × List Char)
  | 0, _ => .error .malformed
  | _, [] => .error .malformed
  | fuel + 1, c :: rest =>
    if c == quote then
      match rest with
      | d :: more =>
        if quote == '\'' && d == '\'' then
          (readQuoted quote fuel more).map fun (text, rest) => (.char '\'' :: text, rest)
        else .ok ([], rest)
      | [] => .ok ([], [])
    else if c == '\\' && quote == '"' then do
      let (meant, rest) ← readEscape rest
      let (text, rest) ← readQuoted quote fuel rest
      return (meant ++ text, rest)
    else if startsBlank (c :: rest) then
      match blankLines (c :: rest) with
      | (0, _) => (readQuoted quote fuel rest).map fun (text, rest) => (.char c :: text, rest)
      | (breaks, left) =>
        (readQuoted quote fuel left).map fun (text, rest) => (asPoints (folded breaks) ++ text, rest)
    else (readQuoted quote fuel rest).map fun (text, rest) => (.char c :: text, rest)

end Yaml

end QuestionBoard
