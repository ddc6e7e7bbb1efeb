import QuestionBoard.Text.Basic

/-!
Paths as text: names with slashes between them.
-/

namespace QuestionBoard

namespace Path

/-- The path without the slashes at its end, unless it is nothing but slashes. -/
def trimmedEnd {α : Type} [BEq α] (slash : α) (path : List α) : List α :=
  let kept := (path.reverse.dropWhile (· == slash)).reverse
  if kept.isEmpty then path else kept

/-- What stands before the last slash, without slashes at its end, and after it. -/
def cut {α : Type} [BEq α] (slash : α) (path : List α) : List α × List α :=
  let name := path.reverse.takeWhile (· != slash)
  let rest := path.reverse.dropWhile (· != slash)
  (trimmedEnd slash rest.reverse, name.reverse)

/-- What stands before the last slash, and after it. -/
def split (path : String) : String × String :=
  let (above, name) := cut '/' path.toList
  (String.ofList above, String.ofList name)

def parent (path : String) : String := (split path).1

/-- The path of the directory, of a path that may not be all characters. -/
def directory (path : Text) : Text := .ofPoints (cut (.char '/') path.points).1

def baseName (path : String) : String := (split path).2

/-- A file name without its last extension; dots at its start begin none. -/
def stem (name : String) : String :=
  let dots := name.toList.takeWhile (· == '.')
  let rest := (name.toList.dropWhile (· == '.')).reverse
  if rest.contains '.' then String.ofList (dots ++ ((rest.dropWhile (· != '.')).drop 1).reverse)
  else name

/-- The part of a file name from its last dot on; a dot at either end of the name begins none. -/
def suffix (name : String) : String :=
  let ending := name.toList.reverse.takeWhile (· != '.')
  if name.toList.contains '.' && !ending.isEmpty && ending.length + 1 < name.length then
    String.ofList ('.' :: ending.reverse)
  else ""

/-- Whether a path starts with a slash. -/
def isAbsolute (path : String) : Bool := path.toList.head? == some '/'

/-- What stands between the slashes of a path. -/
def parts (path : String) : List String := (path.toList.splitOn '/').map String.ofList

/-- One more name on the way down: a dot stays, two dots go up. -/
def descend (above : List String) (name : String) : List String :=
  if name == "" || name == "." then above
  else if name == ".." then (if above == ["/"] then above else above.dropLast)
  else above ++ [name]

/-- The names on the way to a path; that of an absolute path starts with a slash. -/
def names (path : String) : List String :=
  (parts path).foldl descend (if isAbsolute path then ["/"] else [])

/-- The path without empty names and dots; the path of the directory itself is a dot. -/
def normal (path : String) : String :=
  let names := (parts path).filter fun name => name != "" && name != "."
  let text := (if isAbsolute path then "/" else "") ++ "/".intercalate names
  if text == "" then "." else text

def join (directory name : String) : String :=
  if directory == "" || directory.endsWith "/" then directory ++ name else directory ++ "/" ++ name

end Path

end QuestionBoard
