import QuestionBoard.Collection.OrderedMap
import QuestionBoard.Failure.Basic
import QuestionBoard.File.Path
import QuestionBoard.Text.Quoted

/-!
File systems, as far as log files need them, and the file system of a tree of files: some files in a
working directory, with the directories that hold them. Nothing can be made in the directory `/proc`. There
are no links, no permissions and no names that are not UTF-8, so no path with a half can be opened.
-/

namespace QuestionBoard

/-- File systems in which log files can be kept. -/
class FileSystem (φ : Type) where
  /-- Makes a directory and those above it, unless they are there. -/
  makeDirectories : Text → φ → Except Failure Unit × φ
  /-- Opens a file so that text can be appended to it. -/
  openToAppend : Text → φ → Except Failure Unit × φ
  /-- Appends text to an open file. -/
  append : Text → String → φ → φ

/-- Files by the names on the way to them, and the directories that were made. -/
structure FileTree where
  files : OrderedMap (List String) String := .empty
  directories : List (List String) := []

/-- What stands at a place. -/
inductive FileTree.Entry
  | file (content : String)
  | directory
  | absent
  /-- Nothing, because a name on the way is that of a file. -/
  | belowFile

namespace FileTree

/-- The names of the directory in which nothing can be made. -/
def sealedDirectory : List String := ["/", "proc"]

def ofFiles (files : List (String × String)) : FileTree :=
  { files := .ofEntries (files.map fun (path, content) => (Path.names path, content)) }

def entryAt (place : List String) (t : FileTree) : Entry :=
  match t.files.get? place with
  | some content => .file content
  | none =>
    if place.isEmpty || place == ["/"] || place == sealedDirectory || t.directories.contains place ||
        t.files.keys.any fun other => place.isPrefixOf other then .directory
    else if t.files.keys.any fun other => other.isPrefixOf place then .belowFile
    else .absent

def isDirectory (place : List String) (t : FileTree) : Bool :=
  match t.entryAt place with
  | .directory => true
  | _ => false

def occupied (place : List String) (t : FileTree) : Bool :=
  match t.entryAt place with
  | .file _ | .directory => true
  | .absent | .belowFile => false

/-! ### Failures -/

def alreadyThere (path : String) : Failure :=
  .fault .fileExists ("[Errno 17] File exists: " ++ quoted path)

def notFound (path : String) : Failure :=
  .fault .fileNotFound ("[Errno 2] No such file or directory: " ++ quoted path)

def throughFile (path : String) : Failure :=
  .fault .notDirectory ("[Errno 20] Not a directory: " ++ quoted path)

/-- The failure for a directory that is used as a file. -/
def notFile (path : String) : Failure :=
  .fault .isDirectory ("[Errno 21] Is a directory: " ++ quoted path)

/-! ### Making and appending -/

def makeDirectory (path : String) (t : FileTree) : Except Failure FileTree :=
  let place := Path.names path
  match t.entryAt place with
  | .file _ | .directory => .error (alreadyThere path)
  | .belowFile => .error (throughFile path)
  | .absent =>
    if sealedDirectory.isPrefixOf place || !t.isDirectory place.dropLast then .error (notFound path)
    else .ok { t with directories := t.directories ++ [place] }

/-- Makes a directory after those above it, with as much fuel as its path has characters; that a
directory is already there is no failure. -/
def makeAll : Nat → String → FileTree → Except Failure Unit × FileTree
  | 0, _, t => (.ok (), t)
  | fuel + 1, path, t =>
    let path' := if Path.baseName path == "" then Path.parent path else path
    let above := Path.parent path'
    let (result, t) :=
      if above == "" || Path.baseName path' == "" || t.occupied (Path.names above) then (.ok (), t)
      else makeAll fuel above t
    match result with
    | .error (.fault .fileExists _) | .ok () =>
      match t.makeDirectory path with
      | .ok t => (.ok (), t)
      | .error f => (if t.isDirectory (Path.names path) then .ok () else .error f, t)
    | .error f => (.error f, t)

/-- Opens a file so that text can be appended to it, which makes it if it is absent. -/
def openFile (path : String) (t : FileTree) : Except Failure FileTree :=
  let place := Path.names path
  match t.entryAt place with
  | .file _ => .ok t
  | .directory => .error (notFile path)
  | .belowFile => .error (throughFile path)
  | .absent =>
    if sealedDirectory.isPrefixOf place || !t.isDirectory place.dropLast then .error (notFound path)
    else .ok { t with files := t.files.insert place "" }

def appendText (path text : String) (t : FileTree) : FileTree :=
  let place := Path.names path
  { t with files := t.files.insert place ((t.files.get? place).getD "" ++ text) }

/-- Makes the directory at a path and those above it; one with a half in its name cannot be made. -/
def makeDirectories (path : Text) (t : FileTree) : Except Failure Unit × FileTree :=
  match path with
  | .plain s => makeAll s.length s t
  | .broken before _ _ =>
    let above := Path.parent before
    let (made, t) := if above == "" then (.ok (), t) else makeAll above.length above t
    match made with
    | .error (.fault .fileExists _) | .ok () => (path.written.map fun _ => (), t)
    | .error f => (.error f, t)

instance : FileSystem FileTree where
  makeDirectories := makeDirectories
  openToAppend path t :=
    match path.written.bind fun path => t.openFile path with
    | .ok t => (.ok (), t)
    | .error f => (.error f, t)
  append path text t :=
    match path.written with
    | .ok path => t.appendText path text
    | .error _ => t

/-- The files of the working directory, under their paths. -/
def listing (t : FileTree) : List (String × String) :=
  t.files.entries.filterMap fun (place, content) =>
    if place.head? == some "/" then none else some ("/".intercalate place, content)

end FileTree

end QuestionBoard
