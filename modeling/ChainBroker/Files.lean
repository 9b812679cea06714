import ChainBroker.OsError
import ChainBroker.Text.Split
import ChainBroker.Text.Utf8

/-!
# Files

What the broker sees of the files around it: it reads a file as a whole, and it lists a directory
together with the contents of the files directly inside.

A `FileTree` holds the files and directories below one directory and answers both questions for
relative paths. A path is followed component by component: every component but the last has to be a
directory, a single dot stays, and two dots go back up, though never out of the tree.
-/

namespace ChainBroker

/-- What stands behind a name in a directory. -/
inductive EntryContent where
  /-- A regular file with what comes of reading it. -/
  | file (bytes : Except OsError Bytes)
  /-- Anything else, such as a directory. -/
  | other

/-- A name in a directory. -/
structure DirectoryEntry where
  name : String
  /-- What stands behind it. -/
  content : EntryContent

/-- What a directory holds directly, in the order in which it is enumerated. -/
abbrev Listing : Type := List DirectoryEntry

/-- The text in a file. -/
def textOf (bytes : Except OsError Bytes) : Except OsError String :=
  match bytes with
  | .error e => .error e
  | .ok bytes =>
    match Utf8.decode? bytes with
    | some s => .ok s
    | none => .error .notUtf8

/-- The path of a name inside a directory. -/
def joinPath (dir name : String) : String :=
  if dir.toList.getLast? = some '/' then dir ++ name else dir ++ "/" ++ name

/-- Files and directories below one directory, under the components of their paths. -/
structure FileTree where
  /-- The files with their contents. -/
  files : List (List (List Char) × Bytes)
  /-- Directories that may be empty; those on the way to a file need not be named. -/
  directories : List (List (List Char))

namespace FileTree

/-- A place in a tree. -/
inductive Place where
  | file (bytes : Bytes)
  | directory

/-- All named places. -/
def names (t : FileTree) : List (List (List Char)) := t.files.map Prod.fst ++ t.directories

/-- What stands at a path, if anything does. -/
def place? (t : FileTree) (path : List (List Char)) : Option Place :=
  match t.files.lookup path with
  | some bytes => some (.file bytes)
  | none => if path = [] ∨ t.names.any (path.isPrefixOf ·) then some .directory else none

/-- The longest name of a file, in bytes. -/
def maxNameLength : Nat := 255

/-- The longest path, in bytes. -/
def maxPathLength : Nat := 4095

/-- The number of the reason that a name is too long. -/
def nameTooLong : OsError := .number 36

/-- Follows components from a place in the tree. -/
def follow (t : FileTree) : List (List Char) → List (List Char) →
    Except OsError (List (List Char) × Place)
  | here, [] =>
    match t.place? here with
    | some place => .ok (here, place)
    | none => .error .noSuchFile
  | here, name :: rest =>
    match t.place? here with
    | none => .error .noSuchFile
    | some (.file _) => .error .notDirectory
    | some .directory =>
      if name = [] ∨ name = ['.'] then follow t here rest
      else if name = ['.', '.'] then
        if here = [] then .error .noSuchFile else follow t here.dropLast rest
      else if maxNameLength < (String.ofList name).utf8ByteSize then .error nameTooLong
      else follow t (here ++ [name]) rest

/-- What stands at a path, with the path's components. -/
def locate (t : FileTree) (path : String) : Except OsError (List (List Char) × Place) :=
  if '\x00' ∈ path.toList then .error .nulInName
  else if maxPathLength < path.utf8ByteSize then .error nameTooLong
  else match path.toList with
    | [] | '/' :: _ => .error .noSuchFile
    | s => t.follow [] (Text.splitAt '/' s)

/-- The contents of a file. -/
def read (t : FileTree) (path : String) : Except OsError Bytes :=
  match t.locate path with
  | .error e => .error e
  | .ok (_, .file bytes) => .ok bytes
  | .ok (_, .directory) => .error .isDirectory

/-- The names directly inside a directory, each once. -/
def inside (t : FileTree) (dir : List (List Char)) : List (List Char) :=
  (t.names.filterMap fun path =>
    if dir.isPrefixOf path then (path.drop dir.length).head? else none).eraseDups

/-- What a directory holds. -/
def list (t : FileTree) (path : String) : Except OsError Listing :=
  match t.locate path with
  | .error e => .error e
  | .ok (_, .file _) => .error .notDirectory
  | .ok (dir, .directory) =>
    .ok <| (t.inside dir).map fun name =>
      { name := String.ofList name
        content := match t.place? (dir ++ [name]) with
          | some (.file bytes) => .file (.ok bytes)
          | _ => .other }

/-- The tree of a list of paths, with the contents of those that are files. -/
def ofList (l : List (String × Option Bytes)) : FileTree where
  files := l.filterMap fun (path, content) =>
    content.map fun bytes => (Text.splitAt '/' path.toList, bytes)
  directories := l.filterMap fun (path, content) =>
    match content with
    | some _ => none
    | none => some (Text.splitAt '/' path.toList)

end FileTree

end ChainBroker
