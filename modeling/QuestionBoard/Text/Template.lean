import QuestionBoard.Failure.Basic
import QuestionBoard.Text.Quoted

/-!
Templates: texts with directives that start with a percent sign and are replaced by arguments. A
directive may name its argument, and has flags, a width, a precision and a conversion. Arguments are
a list that has to be used up, or an object whose entries are named.
-/

namespace QuestionBoard

namespace Template

/-- How a directive names its argument. -/
inductive Key
  | next
  | named (key : Text)
  /-- A parenthesis that is never closed. -/
  | unclosed

/-- A width or a precision. -/
inductive Amount
  | unset
  | number (n : Nat)
  /-- The next argument. -/
  | argument

structure Directive where
  key : Key := .next
  leftAligned : Bool := false
  plus : Bool := false
  blank : Bool := false
  alternate : Bool := false
  zeroFilled : Bool := false
  width : Amount := .unset
  precision : Amount := .unset
  /-- None if the template ends before it. -/
  conversion : Option CodePoint := none
  /-- The position of the conversion in the template. -/
  position : Nat := 0

inductive Piece
  | plain (text : List CodePoint)
  | directive (d : Directive)

/-! ### Reading -/

/-- The text up to the parenthesis that closes the `depth`-th open one, and what follows. -/
def readKey (depth : Nat) : List CodePoint → Option (List CodePoint × List CodePoint)
  | [] => none
  | p :: rest =>
    if p == .char ')' && depth == 0 then some ([], rest)
    else
      let depth := if p == .char ')' then depth - 1 else if p == .char '(' then depth + 1 else depth
      (readKey depth rest).map fun (key, rest) => (p :: key, rest)

def readFlags (d : Directive) : List CodePoint → Directive × List CodePoint
  | .char '-' :: rest => readFlags { d with leftAligned := true } rest
  | .char '+' :: rest => readFlags { d with plus := true } rest
  | .char ' ' :: rest => readFlags { d with blank := true } rest
  | .char '#' :: rest => readFlags { d with alternate := true } rest
  | .char '0' :: rest => readFlags { d with zeroFilled := true } rest
  | ps => (d, ps)

def isDigit : CodePoint → Bool
  | .char c => c.isDigit
  | .half _ => false

/-- Reads a width or a precision. -/
def readAmount (ps : List CodePoint) : Amount × List CodePoint :=
  match ps with
  | .char '*' :: rest => (.argument, rest)
  | _ =>
    match ps.takeWhile isDigit with
    | [] => (.unset, ps)
    | digits => (.number (digits.foldl (fun n p => 10 * n + (p.code - 48)) 0), ps.dropWhile isDigit)

def readPrecision : List CodePoint → Amount × List CodePoint
  | .char '.' :: rest =>
    match readAmount rest with
    | (.unset, rest) => (.number 0, rest)
    | found => found
  | ps => (.unset, ps)

/-- What follows a letter for a size, which has no meaning. -/
def skipSize : List CodePoint → List CodePoint
  | .char 'h' :: rest | .char 'l' :: rest | .char 'L' :: rest => rest
  | ps => ps

/-- Reads what follows a percent sign; `length` is the length of the whole template. -/
def readDirective (length : Nat) (ps : List CodePoint) : Directive × List CodePoint :=
  let opened : Option (Key × List CodePoint) := match ps with
    | .char '(' :: rest => (readKey 0 rest).map fun (key, rest) => (.named (.ofPoints key), rest)
    | _ => some (.next, ps)
  match opened with
  | none => ({ key := .unclosed }, [])
  | some (key, ps) =>
    let (d, ps) := readFlags { key } ps
    let (width, ps) := readAmount ps
    let (precision, ps) := readPrecision ps
    let ps := skipSize ps
    ({ d with width, precision, conversion := ps.head?, position := length - ps.length }, ps.drop 1)

/-- Reads a template, with as much fuel as it is long. -/
def readPieces (length : Nat) : Nat → List CodePoint → List Piece
  | 0, _ => []
  | _, [] => []
  | fuel + 1, .char '%' :: rest =>
    let (d, rest) := readDirective length rest
    .directive d :: readPieces length fuel rest
  | fuel + 1, ps =>
    .plain (ps.takeWhile (· != .char '%')) :: readPieces length fuel (ps.dropWhile (· != .char '%'))

def pieces (template : Text) : List Piece :=
  readPieces template.length template.length template.points

/-! ### Arguments -/

inductive Arguments
  | listed (items : List Json)
  | named (entries : Json)

/-- The arguments that are left: the object of named ones, if that is what they are, and those that
come next. -/
structure Supply where
  names : Option Json
  coming : List Json

def Arguments.supply : Arguments → Supply
  | .listed items => ⟨none, items⟩
  | .named entries => ⟨some entries, [entries]⟩

def Supply.next (s : Supply) : Except Failure (Json × Supply) :=
  match s.coming with
  | [] => .error (.fault .type "not enough arguments for format string")
  | argument :: rest => .ok (argument, { s with coming := rest })

/-- The supply from which a directive takes its arguments. -/
def Supply.under (key : Key) (s : Supply) : Except Failure Supply :=
  match key, s.names with
  | .next, _ => .ok s
  | _, none => .error (.fault .type "format requires a mapping")
  | .unclosed, some _ => .error (.fault .value "incomplete format key")
  | .named key, some names =>
    match names.get? key with
    | some value => .ok { s with coming := [value] }
    | none => .error (.fault .key key)

/-- A width or a precision as a number. -/
def Supply.amount (amount : Amount) (s : Supply) : Except Failure (Option Int × Supply) :=
  match amount with
  | .unset => .ok (none, s)
  | .number n => .ok (some n, s)
  | .argument => do
    let (argument, s) ← s.next
    match argument.asInt? with
    | some n => return (some n, s)
    | none => throw (.fault .type "* wants int")

/-! ### Conversions -/

/-- Text set in a width: signs and what marks a base stand before the zeros of a number. -/
def aligned (d : Directive) (width : Int) (numeric : Bool) (sign mark : String) (body : Text) : Text :=
  let missing := (width.natAbs - (sign.length + mark.length + body.length))
  let fill := fun (c : Char) => String.ofList (List.replicate missing c)
  if d.leftAligned || width < 0 then sign ++ mark ++ body ++ fill ' '
  else if numeric && d.zeroFilled then sign ++ mark ++ fill '0' ++ body
  else fill ' ' ++ sign ++ mark ++ body

def signText (d : Directive) (negative : Bool) : String :=
  if negative then "-" else if d.plus then "+" else if d.blank then " " else ""

/-- The failure of a conversion that needs another kind of number. -/
def wrongNumber (conversion : Char) (wanted : String) (value : Json) : Failure :=
  .fault .type ("%" ++ conversion.toString ++ " format: " ++ wanted ++ " is required, not " ++
    value.kindName)

/-- A whole number from an argument, for a decimal conversion. -/
def wholeNumber (conversion : Char) (value : Json) : Except Failure Int :=
  match value.asInt?, value with
  | some n, _ => .ok n
  | none, .float x =>
    match x with
    | .infinite _ => .error (.fault .overflow "cannot convert float infinity to integer")
    | .notANumber => .error (.fault .value "cannot convert float NaN to integer")
    | x => .ok (x.truncate?.getD 0)
  | none, value => .error (wrongNumber conversion "a real number" value)

/-- A whole number in a base. -/
def integerText (d : Directive) (width : Int) (precision : Option Int) (base : Nat) (mark : String)
    (upper : Bool) (n : Int) : Text :=
  let digits := zeroPadded (precision.getD 0).toNat (String.ofList (Nat.toDigits base n.natAbs))
  let cased := fun (s : String) => if upper then s.map Char.toUpper else s
  aligned d width true (signText d (n < 0)) (if d.alternate then cased mark else "") (cased digits)

def realNumber (value : Json) : Except Failure Binary64 :=
  match value.asInt?, value with
  | some n, _ =>
    match Binary64.ofInt n with
    | .infinite _ => .error (.fault .overflow "int too large to convert to float")
    | x => .ok x
  | none, .float x => .ok x
  | none, value => .error (.fault .type ("must be real number, not " ++ value.kindName))

/-- Whether a written number has a minus sign, and what follows it. -/
def unsigned (text : String) : Bool × String :=
  match text.toList with
  | '-' :: digits => (true, String.ofList digits)
  | _ => (false, text)

/-- The text of a binary number in the form of the conversions `e`, `f` and `g`. -/
def realDigits (places : Nat) (conversion : Char) (x : Binary64) : String :=
  match conversion with
  | 'e' => x.scientific places
  | 'E' => (x.scientific places).map Char.toUpper
  | 'g' => x.general places
  | 'G' => (x.general places).map Char.toUpper
  | 'F' => (x.fixed places).map Char.toUpper
  | _ => x.fixed places

/-- The text of a binary number, for the conversions `e`, `f` and `g`. -/
def realText (d : Directive) (width : Int) (precision : Option Int) (conversion : Char)
    (x : Binary64) : Text :=
  let (negative, digits) := unsigned (realDigits (precision.getD 6).toNat conversion x)
  aligned d width true (signText d negative) "" digits

/-- A single character from an argument. -/
def character (value : Json) : Except Failure Text :=
  match value with
  | .text s => if s.length = 1 then .ok s else .error (.fault .type "%c requires int or char")
  | value =>
    match value.asInt? with
    | none => .error (.fault .type "%c requires int or char")
    | some n =>
      match if n < 0 then none else CodePoint.ofCode? n.toNat with
      | some p => .ok (.ofPoints [p])
      | none => .error (.fault .overflow "%c arg not in range(0x110000)")

/-- The text of an argument, as far as the precision lets it through. -/
def shown (d : Directive) (width : Int) (precision : Option Int) (text : Text) : Text :=
  let text := match precision with
    | some n => .ofPoints (text.points.take n.toNat)
    | none => text
  aligned d width false "" "" text

/-- The failure of a directive whose conversion there is not. -/
def Directive.unsupported (d : Directive) (conversion : CodePoint) : Failure :=
  let said := match conversion with
    | .char c => if 31 ≤ c.toNat ∧ c.toNat < 127 then c.toString else "?"
    | .half _ => "?"
  .fault .value ("unsupported format character '" ++ said ++ "' (0x" ++
    String.ofList (Nat.toDigits 16 conversion.code) ++ ") at index " ++ decimalDigits d.position)

/-- The text that replaces a directive with a conversion to text in decimal, where no whole number may
have too many digits. -/
def convertShown (d : Directive) (width : Int) (precision : Option Int) (conversion : Char) (value : Json) :
    Except Failure Text :=
  if value.hasLongInteger then .error .integerTooLongToWrite
  else match conversion with
    | 's' => .ok (shown d width precision value.display)
    | 'r' => .ok (shown d width precision value.quotedDisplay)
    | 'a' => .ok (shown d width precision (asciiEscaped value.quotedDisplay))
    | _ => (wholeNumber conversion value).map (integerText d width precision 10 "" false)

def convert (d : Directive) (width : Int) (precision : Option Int) (conversion : Char) (value : Json) :
    Except Failure Text :=
  match conversion with
  | 's' | 'r' | 'a' | 'd' | 'i' | 'u' => convertShown d width precision conversion value
  | 'o' | 'x' | 'X' =>
    match value.asInt? with
    | none => .error (wrongNumber conversion "an integer" value)
    | some n =>
      .ok (integerText d width precision (if conversion == 'o' then 8 else 16)
        (if conversion == 'o' then "0o" else "0x") (conversion == 'X') n)
  | 'e' | 'E' | 'f' | 'F' | 'g' | 'G' =>
    (realNumber value).map (realText d width precision conversion)
  | 'c' => (character value).map (aligned d width false "" "")
  | c => .error (d.unsupported (.char c))

def Directive.fill (d : Directive) (s : Supply) : Except Failure (Text × Supply) := do
  let s ← s.under d.key
  let (width, s) ← s.amount d.width
  let (precision, s) ← s.amount d.precision
  match d.conversion with
  | none => throw (.fault .value "incomplete format")
  | some (.char '%') => return ("%", s)
  | some conversion =>
    let (value, s) ← s.next
    let precision := precision.map (max 0)
    match conversion with
    | .char c => return (← convert d (width.getD 0) precision c value, s)
    | .half _ => throw (d.unsupported conversion)

/-- Replaces the directives among pieces. -/
def fillPieces : List Piece → Supply → Except Failure (Text × Supply)
  | [], s => .ok ("", s)
  | .plain text :: rest, s => do
    let (filled, s) ← fillPieces rest s
    return (.ofPoints text ++ filled, s)
  | .directive d :: rest, s => do
    let (first, s) ← d.fill s
    let (filled, s) ← fillPieces rest s
    return (first ++ filled, s)

/-- The template with its directives replaced by arguments, which must be used up if they are
listed. -/
def fill (template : Text) (arguments : Arguments) : Except Failure Text := do
  let (filled, s) ← fillPieces (pieces template) arguments.supply
  if s.names.isNone && !s.coming.isEmpty then
    throw (.fault .type "not all arguments converted during string formatting")
  return filled

end Template

end QuestionBoard
