import QuestionBoard.Text.Class

/-!
Command lines. Options come first, then a command and what belongs to it. An option may be named by
the start of its long name if that fits no other; its value follows it, or is attached: after an
equals sign, or right after a short name. A word that looks like a negative number, or holds a space,
is no option. Everything after two dashes is taken as it is.
-/

namespace QuestionBoard

namespace CommandLine

inductive Ending (α : Type)
  | accepted (value : α)
  | helped
  | versioned
  | refused

/-- What an option does: it takes a value, which it may refuse, or it ends the reading. -/
inductive OptionUse (α : Type)
  | takes (put : String → α → Option α)
  | ends (ending : Ending α)

/-- An option under its names, the short ones with one dash. -/
structure NamedOption (α : Type) where
  names : List String
  use : OptionUse α

/-- What may follow a command. -/
inductive Operand (α : Type)
  | absent
  | optional (put : String → α → α)
  | required (put : String → α → α)

/-- A command: what it says by itself, and what may follow it. -/
structure Command (α : Type) where
  name : String
  mark : α → α
  operand : Operand α

structure Grammar (α : Type) where
  options : List (NamedOption α)
  commands : List (Command α)
  commandRequired : Bool

variable {α : Type}

def help : NamedOption α := ⟨["-h", "--help"], .ends .helped⟩

/-! ### Words -/

inductive Word (α : Type)
  | operand
  | known (option : NamedOption α) (name : String) (attached : Option String)
  | unknown
  | dashes

def namesOf (options : List (NamedOption α)) : List (String × NamedOption α) :=
  options.flatMap fun option => option.names.map fun name => (name, option)

def splitEquals? (cs : List Char) : Option (String × String) :=
  if cs.contains '=' then
    let name := cs.takeWhile (· != '=')
    some (String.ofList name, String.ofList (cs.drop (name.length + 1)))
  else none

/-- The options that a word which starts with a dash may stand for. -/
def candidates (options : List (NamedOption α)) (cs : List Char) :
    List (NamedOption α × String × Option String) :=
  let names := namesOf options
  match cs with
  | '-' :: '-' :: _ =>
    let (start, attached) := match splitEquals? cs with
      | some (start, value) => (start, some value)
      | none => (String.ofList cs, none)
    (names.filter fun entry => entry.1.startsWith start).map fun (name, option) =>
      (option, name, attached)
  | dash :: c :: rest =>
    (names.filter fun entry => entry.1 == String.ofList [dash, c]).map fun (name, option) =>
      (option, name, some (String.ofList rest))
  | _ => []

def isNegativeNumber : List Char → Bool
  | '-' :: digits =>
    let isDigit := fun (c : Char) => (decimalDigit? c).isSome
    match digits.dropWhile isDigit with
    | [] => !digits.isEmpty
    | '.' :: places => !places.isEmpty && places.all isDigit
    | _ => false
  | _ => false

/-- What a word is; nothing if it may stand for several options. -/
def classify? (options : List (NamedOption α)) (text : String) : Option (Word α) :=
  let names := namesOf options
  let cs := text.toList
  match cs with
  | '-' :: _ :: _ =>
    match names.lookup text, (splitEquals? cs).bind fun (name, value) =>
        (names.lookup name).map fun option => (option, name, value) with
    | some option, _ => some (.known option text none)
    | none, some (option, name, value) => some (.known option name (some value))
    | none, none =>
      match candidates options cs with
      | [(option, name, attached)] => some (.known option name attached)
      | _ :: _ :: _ => none
      | [] => if isNegativeNumber cs || cs.contains ' ' then some .operand else some .unknown
  | _ => some .operand

/-- The words of a command line with what they are; nothing if one may stand for several options. -/
def words? (options : List (NamedOption α)) : List String → Option (List (String × Word α))
  | [] => some []
  | text :: rest =>
    if text == "--" then some ((text, .dashes) :: rest.map fun text => (text, .operand))
    else do
      let word ← classify? options text
      return (text, word) :: (← words? options rest)

/-! ### Options without a value -/

/-- Whether letters after a short name are short names in turn, the last of which may take a value. -/
def isCluster (options : List (NamedOption α)) (valueFollows : Bool) : List Char → Bool
  | [] => true
  | c :: rest =>
    match (namesOf options).lookup (String.ofList ['-', c]) with
    | none => false
    | some option =>
      match option.use with
      | .takes _ => !rest.isEmpty || valueFollows
      | .ends _ => isCluster options valueFollows rest

/-- How an option that takes no value ends the reading. -/
def endWith (options : List (NamedOption α)) (ending : Ending α) (name : String)
    (attached : Option String) (valueFollows : Bool) : Ending α :=
  match attached with
  | none => ending
  | some tail =>
    if name.startsWith "--" || tail.isEmpty || !isCluster options valueFollows tail.toList then .refused
    else ending

/-! ### Commands -/

/-- Reads what follows a command: at most one operand, still expected while `slot` has a place for it. -/
def readOperands (takesDashes : Bool) :
    List (String × Word α) → Operand α → α → Bool → Ending α
  | [], slot, value, superfluous =>
    match slot with
    | .required _ => .refused
    | .absent | .optional _ => if superfluous then .refused else .accepted value
  | (text, .operand) :: rest, slot, value, superfluous =>
    match slot with
    | .absent => readOperands takesDashes rest .absent value true
    | .optional put | .required put => readOperands takesDashes rest .absent (put text value) superfluous
  | (_, .known option name attached) :: rest, slot, value, _ =>
    match option.use with
    | .ends ending => endWith [help] ending name attached false
    | .takes _ => readOperands takesDashes rest slot value true
  | (_, .unknown) :: rest, slot, value, _ => readOperands takesDashes rest slot value true
  | (_, .dashes) :: rest, slot, value, superfluous =>
    readOperands takesDashes rest slot value (superfluous || !takesDashes)

def Operand.isTaken : Operand α → Bool
  | .absent => false
  | .optional _ | .required _ => true

def Command.read (c : Command α) (rest : List String) (value : α) (superfluous : Bool) : Ending α :=
  match words? [help] rest with
  | none => .refused
  | some words => readOperands c.operand.isTaken words c.operand (c.mark value) superfluous

/-! ### Options -/

def readWords (g : Grammar α) : List (String × Word α) → α → Bool → Ending α
  | [], value, superfluous =>
    if superfluous || g.commandRequired then .refused else .accepted value
  | (text, .operand) :: rest, value, superfluous =>
    match g.commands.find? (·.name == text) with
    | none => .refused
    | some command => command.read (rest.map Prod.fst) value superfluous
  | (_, .dashes) :: _, _, _ => .refused
  | (_, .unknown) :: rest, value, _ => readWords g rest value true
  | (_, .known ⟨_, .ends ending⟩ name attached) :: (_, .operand) :: _, _, _ =>
    endWith g.options ending name attached true
  | (_, .known ⟨_, .ends ending⟩ name attached) :: _, _, _ => endWith g.options ending name attached false
  | (_, .known ⟨_, .takes put⟩ _ (some attached)) :: rest, value, superfluous =>
    match put attached value with
    | none => .refused
    | some value => readWords g rest value superfluous
  | (_, .known ⟨_, .takes put⟩ _ none) :: (text, .operand) :: rest, value, superfluous =>
    match put text value with
    | none => .refused
    | some value => readWords g rest value superfluous
  | (_, .known ⟨_, .takes _⟩ _ none) :: _, _, _ => .refused

def Grammar.read (g : Grammar α) (usual : α) (arguments : List String) : Ending α :=
  match words? g.options arguments with
  | none => .refused
  | some words => readWords g words usual false

end CommandLine

end QuestionBoard
