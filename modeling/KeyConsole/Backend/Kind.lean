import KeyConsole.Config
import KeyConsole.Error
import KeyConsole.Text.Ascii

/-!
# Kinds of backends

There are two kinds of backends: databases in memory, and databases that are
tables of one file.
-/

namespace KeyConsole

/-- The kinds of backends. -/
inductive BackendKind where
  /-- Databases in memory, which live as long as the connection. -/
  | memory
  /-- Databases that are tables of one file. -/
  | tableFile
  deriving DecidableEq, Repr, Inhabited

namespace BackendKind

/-- Every kind, in the order in which they are listed. -/
def all : List BackendKind := [memory, tableFile]

/-- The name of a kind. -/
def name : BackendKind → String
  | memory => "memory"
  | tableFile => "redb"

/-- The kind that a name stands for, without regard to case and to blanks
around it. -/
def ofName (name : String) : Except Error BackendKind :=
  match all.find? fun kind => Text.sameLetters kind.name (Text.trim name) with
  | some kind => .ok kind
  | none => .error (.invalidArgument ("unknown backend '" ++ name ++ "'"))

/-- The settings of a kind when the user gives none. -/
def defaultConfig : BackendKind → Config
  | memory => Config.forDatabase "default"
  | tableFile => Config.forDatabase "~/test.redb"

end BackendKind

end KeyConsole
