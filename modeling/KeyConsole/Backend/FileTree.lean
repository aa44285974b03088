import KeyConsole.OrderedMap
import KeyConsole.Text.Pieces

/-!
# Trees of files

The directories and files that paths lead to.  A path is followed name by name
from the root or from the working directory, and everything on the way has to
be a directory that exists.  At its end there is a directory, a file, or a
place where a file can be created; otherwise the path is at fault.
-/

namespace KeyConsole

/-- The names that lead from the root to a file or a directory. -/
abbrev Location := List String

/-- Why there is no file at the end of a path, nor a place for one. -/
inductive PathFault where
  /-- The path holds the character U+0000. -/
  | holdsNul
  /-- The path, or a name in it, is too long. -/
  | nameTooLong
  /-- Something on the way does not exist. -/
  | noSuchFile
  /-- Something on the way is a file. -/
  | notDirectory
  /-- Only a directory can be there. -/
  | isDirectory
  deriving DecidableEq, Repr

/-- The text of a fault. -/
def PathFault.message : PathFault → String
  | holdsNul => "file name contained an unexpected NUL byte"
  | nameTooLong => "File name too long (os error 36)"
  | noSuchFile => "No such file or directory (os error 2)"
  | notDirectory => "Not a directory (os error 20)"
  | isDirectory => "Is a directory (os error 21)"

/-- Directories, and files with contents. -/
structure FileTree (α : Type) where
  /-- The directory in which relative paths begin. -/
  workingDirectory : Location
  /-- Every directory, together with those that lead to it. -/
  directories : List Location
  files : OrderedMap Location α

namespace FileTree

variable {α : Type}

/-- How many bytes a name may have. -/
def nameLimit : Nat := 255

/-- How many bytes a path may have. -/
def pathLimit : Nat := 4095

/-- The tree without files that has the given directories and those that lead
to them. -/
def ofDirectories (workingDirectory : Location) (others : List Location) : FileTree α where
  workingDirectory := workingDirectory
  directories := (workingDirectory :: others).flatMap fun location =>
    (List.range (location.length + 1)).map location.take
  files := OrderedMap.empty

/-! ## Following a path -/

/-- Follow one name of a path. -/
def follow (location : Location) (name : String) : Location :=
  if name = "" ∨ name = "." then location
  else if name = ".." then location.dropLast
  else location ++ [name]

/-- Follow a name into a directory. -/
def enter (tree : FileTree α) (location : Location) (name : String) :
    Except PathFault Location :=
  if nameLimit < name.utf8ByteSize then .error .nameTooLong
  else if tree.directories.contains (follow location name) then .ok (follow location name)
  else if tree.files.contains (follow location name) then .error .notDirectory
  else .error .noSuchFile

/-- What is at a location. -/
inductive Node (α : Type) where
  | directory
  | file (location : Location) (contents : α)
  /-- Nothing, so that a file can be created there. -/
  | vacant (location : Location)

/-- Look at a location. -/
def look (tree : FileTree α) (location : Location) : Node α :=
  if tree.directories.contains location then .directory
  else
    match tree.files.get? location with
    | some contents => .file location contents
    | none => .vacant location

/-- Follow the last name of a path.  It need not lead to a directory, unless
the path goes on after it with a slash. -/
def arrive (tree : FileTree α) (location : Location) (name : String) (slash : Bool) :
    Except PathFault (Node α) :=
  match tree.look (follow location name) with
  | .directory => .ok .directory
  | node =>
    if slash then .error .isDirectory
    else if nameLimit < name.utf8ByteSize then .error .nameTooLong
    else .ok node

/-- Follow the names of a path. -/
def resolveNames (tree : FileTree α) (start : Location) (names : List String) (slash : Bool) :
    Except PathFault (Node α) := do
  let directory ← names.dropLast.foldlM tree.enter start
  tree.arrive directory (names.getLastD "") slash

/-- Where a path begins. -/
def start (tree : FileTree α) (path : String) : Location :=
  if path.toList.head? = some '/' then [] else tree.workingDirectory

/-- Refuse a path that cannot be followed in any tree. -/
def checkPath (path : String) : Except PathFault Unit :=
  if path.toList.contains '\x00' then .error .holdsNul
  else if path.isEmpty then .error .noSuchFile
  else if pathLimit < path.utf8ByteSize then .error .nameTooLong
  else .ok ()

/-- What is at the end of a path. -/
def resolve (tree : FileTree α) (path : String) : Except PathFault (Node α) := do
  checkPath path
  let names := Text.pieces "/" path
  tree.resolveNames (tree.start path) (names.reverse.dropWhile String.isEmpty).reverse
    (names.getLastD "").isEmpty

/-! ## Writing -/

/-- Write the contents of a file. -/
def write (tree : FileTree α) (location : Location) (contents : α) : FileTree α :=
  { tree with files := tree.files.insert location contents }

end FileTree

end KeyConsole
