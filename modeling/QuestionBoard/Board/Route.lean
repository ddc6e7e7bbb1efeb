/-!
The paths of the board. A line feed after the last word of a path does not count. A path with slashes
too many at its end is sent to the one without them.
-/

namespace QuestionBoard

/-- What a path leads to. -/
inductive Route
  | root
  | questions
  | question (id : String)
  | answer (id : String)
  deriving DecidableEq, Repr

namespace Route

def ends (word : String) (part : List Char) : Bool :=
  part == word.toList || part == word.toList ++ ['\n']

/-- What a path leads to, if to anything. -/
def ofPath (path : List Char) : Option Route :=
  match path.splitOn '/' with
  | [[], last] =>
    if ends "" last then some .root
    else if ends "questions" last then some .questions
    else none
  | [[], first, c :: id] =>
    if first == "questions".toList then some (.question (String.ofList (c :: id))) else none
  | [[], first, c :: id, last] =>
    if first == "questions".toList && ends "answer" last then some (.answer (String.ofList (c :: id)))
    else none
  | _ => none

/-- The path to which one that leads nowhere is sent, whether or not it leads anywhere. -/
def corrected (path : List Char) : List Char :=
  if path.getLast? == some '/' then (path.reverse.dropWhile (· == '/')).reverse else path ++ ['/']

/-- Whether a path that leads nowhere is sent to another one. -/
def isRedirected (path : List Char) : Bool := (ofPath (corrected path)).isSome

end Route

end QuestionBoard
