import QuestionBoard.Environment.Variables

/-!
Files of environment variables. A line gives a name and, after an equals sign, a value, which may
stand in quotes; a number sign begins a comment. A value may name other variables in braces, with a
value to use instead of an absent one. A line that cannot be read is left out without a word.
-/

namespace QuestionBoard

namespace EnvironmentFile

def endsLine (c : Char) : Bool := c == '\n' || c == '\r'

def skipBlanks (cs : List Char) : List Char := cs.dropWhile fun c => isBlank c && !endsLine c

/-- What follows the word `export` and blanks, if these are there. -/
def skipExport (cs : List Char) : List Char :=
  let rest := cs.drop 6
  if cs.take 6 == "export".toList && (skipBlanks rest).length < rest.length then skipBlanks rest else cs

def skipLineEnd : List Char → List Char
  | '\r' :: '\n' :: rest => rest
  | c :: rest => if endsLine c then rest else c :: rest
  | [] => []

def skipLine (cs : List Char) : List Char := skipLineEnd (cs.dropWhile fun c => !endsLine c)

def readName : List Char → Option (Option String × List Char)
  | '#' :: rest => some (none, '#' :: rest)
  | '\'' :: rest =>
    let name := rest.takeWhile (· != '\'')
    match rest.dropWhile (· != '\'') with
    | _ :: rest => if name.isEmpty then none else some (some (String.ofList name), rest)
    | [] => none
  | cs =>
    let isName := fun c => c != '=' && c != '#' && !isBlank c
    let name := cs.takeWhile isName
    if name.isEmpty then none else some (some (String.ofList name), cs.dropWhile isName)

/-- Splits at the first quote without a backslash before it. -/
def splitQuote (quote : Char) (escaped : Bool) : List Char → Option (List Char × List Char)
  | [] => none
  | c :: rest =>
    if c == quote && !escaped then some ([], rest)
    else (splitQuote quote (c == '\\') rest).map fun (value, rest) => (c :: value, rest)

def splitLastQuote (quote : Char) : List Char → Option (List Char × List Char)
  | [] => none
  | c :: rest =>
    match splitLastQuote quote rest with
    | some (value, after) => some (c :: value, after)
    | none => if c == quote then some ([], rest) else none

/-- What a letter after a backslash stands for in double quotes. -/
def escape? : Char → Option Char
  | 'a' => some '\x07'
  | 'b' => some '\x08'
  | 'f' => some '\x0c'
  | 'n' => some '\n'
  | 'r' => some '\r'
  | 't' => some '\t'
  | 'v' => some '\x0b'
  | '"' => some '"'
  | c => if c == '\\' || c == '\'' then some c else none

/-- The value between two quotes without its escapes. -/
def unescaped (quote : Char) : List Char → List Char
  | '\\' :: c :: rest =>
    let meant := if quote == '"' then escape? c else if c == '\\' || c == '\'' then some c else none
    match meant with
    | some m => m :: unescaped quote rest
    | none => '\\' :: unescaped quote (c :: rest)
  | c :: rest => c :: unescaped quote rest
  | [] => []

def readQuoted (quote : Char) (cs : List Char) : Option (String × List Char) :=
  (splitQuote quote false cs <|> splitLastQuote quote cs).map fun (value, rest) =>
    (String.ofList (unescaped quote value), rest)

/-- A value without quotes up to a comment, which needs a blank before it. -/
def beforeComment : List Char → List Char
  | [] => []
  | c :: rest =>
    if isBlank c && (rest.dropWhile isBlank).head? == some '#' then [] else c :: beforeComment rest

def readValue : List Char → Option (String × List Char)
  | '\'' :: rest => readQuoted '\'' rest
  | '"' :: rest => readQuoted '"' rest
  | cs =>
    let line := cs.takeWhile fun c => !endsLine c
    let value := ((beforeComment line).reverse.dropWhile isBlank).reverse
    some (String.ofList value, cs.dropWhile fun c => !endsLine c)

/-- What follows blanks, a comment and the end of the line, if there is nothing else. -/
def readLineEnd (cs : List Char) : Option (List Char) :=
  let rest := match skipBlanks cs with
    | '#' :: rest => rest.dropWhile fun c => !endsLine c
    | rest => rest
  match rest with
  | [] => some []
  | c :: _ => if endsLine c then some (skipLineEnd rest) else none

/-- Reads a line, which starts after blanks: what it assigns, and what follows. A line that cannot be
read assigns nothing. -/
def readLine (cs : List Char) : Option (String × Option String) × List Char :=
  match readName (skipExport cs) with
  | none => (none, skipLine (skipExport cs))
  | some (name, rest) =>
    let rest := skipBlanks rest
    let assigned : Option (Option String × List Char) := match rest with
      | '=' :: rest => (readValue (skipBlanks rest)).map fun (value, rest) => (some value, rest)
      | _ => some (none, rest)
    match assigned with
    | none => (none, skipLine rest)
    | some (value, rest) =>
      match readLineEnd rest with
      | none => (none, skipLine rest)
      | some rest => (name.map fun name => (name, value), rest)

/-- Reads lines, with as much fuel as there are characters. -/
def readLines : Nat → List Char → Variables
  | 0, _ => []
  | fuel + 1, cs =>
    match cs.dropWhile isBlank with
    | [] => []
    | cs =>
      let (assigned, rest) := readLine cs
      assigned.toList ++ readLines fuel rest

/-- Reads the name of a variable in braces, and the value to use instead. -/
def readReference? (cs : List Char) : Option (String × String × List Char) :=
  let name := String.ofList (cs.takeWhile fun c => c != '}' && c != ':')
  match cs.dropWhile fun c => c != '}' && c != ':' with
  | '}' :: rest => some (name, "", rest)
  | ':' :: '-' :: rest =>
    match rest.dropWhile (· != '}') with
    | _ :: after => some (name, String.ofList (rest.takeWhile (· != '}')), after)
    | [] => none
  | _ => none

/-- A value with the variables that it names, with as much fuel as it has characters. -/
def expand (lookup : String → Option (Option String)) : Nat → List Char → List Char
  | 0, _ => []
  | _, [] => []
  | fuel + 1, '$' :: '{' :: rest =>
    match readReference? rest with
    | some (name, instead, rest) =>
      let value := match lookup name with
        | none => instead
        | some value => value.getD ""
      value.toList ++ expand lookup fuel rest
    | none => '$' :: expand lookup fuel ('{' :: rest)
  | fuel + 1, c :: rest => c :: expand lookup fuel rest

/-- The variables of a file; a value may name earlier ones, or those of the environment. -/
def read (outer : Variables) (text : String) : Variables :=
  (readLines text.length text.toList).foldl (fun found (name, value) =>
    let lookup := fun name => found.lookup name <|> outer.lookup name
    let value := value.map fun value =>
      String.ofList (expand lookup value.length value.toList)
    insertEntry name value found) []

end EnvironmentFile

end QuestionBoard
