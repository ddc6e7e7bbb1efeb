import QuestionBoard.File.Tree

/-!
Patterns of paths. A star stands for any characters of a name, a question mark for one, and brackets
for one of a set. A name that starts with a dot is only found by a pattern that does too.
-/

namespace QuestionBoard

namespace Glob

/-- A set of characters: single ones and ranges. -/
def inSet (c : Char) : List Char → Bool
  | a :: '-' :: b :: rest => (a ≤ c && c ≤ b) || inSet c rest
  | a :: rest => a == c || inSet c rest
  | [] => false

/-- What stands between brackets, after the opening one, and what follows the closing one. The first
character of the set may be a closing bracket. -/
def splitSet (cs : List Char) : Option (Bool × List Char × List Char) :=
  let (negated, body) := match cs with
    | '!' :: rest => (true, rest)
    | _ => (false, cs)
  let first := body.take 1
  let others := (body.drop 1).takeWhile (· != ']')
  match (body.drop 1).dropWhile (· != ']') with
  | _ :: rest => some (negated, first ++ others, rest)
  | [] => none

/-- Whether a name fits a pattern, with as much fuel as both have characters. -/
def fitsWith : Nat → List Char → List Char → Bool
  | 0, _, _ => false
  | _, [], [] => true
  | _, [], _ :: _ => false
  | fuel + 1, '*' :: rest, name =>
    fitsWith fuel rest name || (match name with
      | [] => false
      | _ :: more => fitsWith fuel ('*' :: rest) more)
  | _, _ :: _, [] => false
  | fuel + 1, p :: rest, c :: more =>
    if p == '?' then fitsWith fuel rest more
    else if p == '[' then
      match splitSet rest with
      | some (negated, set, rest) => (inSet c set != negated) && fitsWith fuel rest more
      | none => c == '[' && fitsWith fuel rest more
    else p == c && fitsWith fuel rest more

def fits (pattern name : String) : Bool :=
  fitsWith (pattern.length + name.length + 1) pattern.toList name.toList

/-- Whether a path has characters that stand for others. -/
def isPattern (path : String) : Bool := path.toList.any fun c => c == '*' || c == '?' || c == '['

def isHidden (name : String) : Bool := name.startsWith "."

def namesIn (directory : String) (t : FileTree) : List String :=
  let place := Path.names directory
  ((t.files.keys ++ t.directories).filterMap fun other =>
    if place.isPrefixOf other then (other.drop place.length).head? else none).eraseDups

/-- The names in a directory that fit a pattern of names. -/
def fitting (directory pattern : String) (t : FileTree) : List String :=
  (namesIn directory t).filter fun name =>
    (isHidden pattern || !isHidden name) && fits pattern name

/-- The paths that a pattern finds, with as much fuel as it has characters. -/
def expandWith (t : FileTree) : Nat → Bool → String → List String
  | 0, _, _ => []
  | fuel + 1, directoriesOnly, path =>
    let (above, name) := Path.split path
    if !isPattern path then
      if t.occupied (Path.names path) && (name != "" || t.isDirectory (Path.names above)) then [path] else []
    else
      let directories := if above != path && isPattern above then expandWith t fuel true above else [above]
      directories.flatMap fun directory =>
        let found :=
          if isPattern name then fitting directory name t
          else if name == "" then (if t.isDirectory (Path.names directory) then [name] else [])
          else if t.occupied (Path.names (Path.join directory name)) then [name]
          else []
        let paths := found.map (Path.join directory)
        if directoriesOnly then paths.filter fun p => t.isDirectory (Path.names p) else paths

/-- The paths that a pattern finds, in the order of their characters. -/
def expand (t : FileTree) (pattern : String) : List String :=
  (expandWith t (pattern.length + 1) false pattern).mergeSort fun a b => decide (a ≤ b)

end Glob

end QuestionBoard
