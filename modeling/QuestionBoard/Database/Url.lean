import QuestionBoard.Number.Written
import QuestionBoard.Text.Percent

/-!
Addresses of databases. An address that names only the kind of database gets the driver that the
board uses for it. The parts of an address are read from the left; what follows them, the query above all,
is not looked at.
-/

namespace QuestionBoard

/-- The parts of an address. -/
structure DatabaseUrl where
  /-- The kind of database, and after a plus sign the driver. -/
  scheme : Text
  user : Option Text := none
  password : Option Text := none
  host : Option Text := none
  port : Option Int := none
  database : Option Text := none

namespace DatabaseUrl

/-! ### Drivers -/

/-- The openings of addresses without a driver, and what they become. -/
def drivers : List (String × String) :=
  [("postgres://", "postgresql+asyncpg://"), ("postgresql://", "postgresql+asyncpg://"),
    ("sqlite://", "sqlite+aiosqlite://")]

def after? (opening url : List CodePoint) : Option (List CodePoint) :=
  if opening.isPrefixOf url then some (url.drop opening.length) else none

def withDriver (url : Text) : Text :=
  let changed := drivers.findSome? fun (opening, replacement) =>
    (after? (Text.plain opening).points url.points).map fun rest =>
      Text.ofPoints ((Text.plain replacement).points ++ rest)
  changed.getD url

/-- What stands before the first `://`, or all of it. -/
def beforeMark : List CodePoint → List CodePoint
  | .char ':' :: .char '/' :: .char '/' :: _ => []
  | p :: rest => p :: beforeMark rest
  | [] => []

/-- The opening of an address, as messages name it. -/
def schemeOf (url : Text) : Text := .ofPoints (beforeMark url.points)

/-! ### Parts -/

def isSchemePoint : CodePoint → Bool
  | .char c => c.isAlphanum || c == '_' || c == '+'
  | .half _ => false

/-- Whether a point is one of some characters. -/
def isAmong (chars : List Char) : CodePoint → Bool
  | .char c => chars.contains c
  | .half _ => false

def splitLast? (c : Char) (ps : List CodePoint) : Option (List CodePoint × List CodePoint) :=
  if ps.contains (.char c) then
    some (((ps.reverse.dropWhile (· != .char c)).drop 1).reverse, (ps.reverse.takeWhile (· != .char c)).reverse)
  else none

/-- Takes a user and a password off the front. -/
def readUser (ps : List CodePoint) : Option Text × Option Text × List CodePoint :=
  let name := ps.takeWhile fun p => !isAmong [':', '/'] p
  let rest := ps.drop name.length
  let shown := fun (part : List CodePoint) => some (Percent.decodedText (.ofPoints part))
  match rest with
  | .char ':' :: more =>
    if more.contains (.char '@') then
      let password := more.takeWhile (· != .char '@')
      (shown name, shown password, more.drop (password.length + 1))
    else
      match splitLast? '@' name with
      | some (user, host) => (shown user, none, host ++ rest)
      | none => (none, none, ps)
  | _ =>
    match splitLast? '@' name with
    | some (user, host) => (shown user, none, host ++ rest)
    | none => (none, none, ps)

/-- Takes a host off the front; one with colons stands in brackets. -/
def readHost (ps : List CodePoint) : Option Text × List CodePoint :=
  let bracketed := match ps with
    | .char '[' :: more => splitLast? ']' (more.takeWhile fun p => !isAmong ['/', '?'] p)
    | _ => none
  match bracketed with
  | some (p :: name, _) =>
    (some (.ofPoints (p :: name)), ps.drop (name.length + 3))
  | _ =>
    let name := ps.takeWhile fun p => !isAmong ['/', ':', '?'] p
    (if name.isEmpty then none else some (.ofPoints name), ps.drop name.length)

/-- Takes a port off the front. -/
def readPort (ps : List CodePoint) : Except Failure (Option Int × List CodePoint) :=
  match ps with
  | .char ':' :: more =>
    let digits := more.takeWhile fun p => !isAmong ['/', '?'] p
    if digits.isEmpty then .error (.fault .type "Port argument must be an integer or None")
    else (WrittenNumber.read (.ofPoints digits)).map fun port => (some port, more.drop digits.length)
  | _ => .ok (none, ps)

/-- Takes the name of a database off the front. -/
def readDatabase : List CodePoint → Option Text
  | .char '/' :: more => some (.ofPoints (more.takeWhile (· != .char '?')))
  | _ => none

/-- The parts of an address. -/
def parse (url : Text) : Except Failure DatabaseUrl := do
  let scheme := url.points.takeWhile isSchemePoint
  let rest := after? (Text.plain "://").points (url.points.drop scheme.length)
  match scheme, rest with
  | _ :: _, some rest =>
    let (user, password, rest) := readUser rest
    let (host, rest) := readHost rest
    let (port, rest) ← readPort rest
    return { scheme := .ofPoints scheme, user, password, host, port, database := readDatabase rest }
  | _, _ =>
    throw (.fault .databaseUrl "Could not parse SQLAlchemy URL from given URL string")

end DatabaseUrl

end QuestionBoard
