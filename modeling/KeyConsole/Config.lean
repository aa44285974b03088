import KeyConsole.Text.Blank
import KeyConsole.Text.Pieces

/-!
# Settings of a connection

A connection is set up by a list of flags, each but one followed by a value.
The list is also written as one line: blanks inside values are escaped, so
that the line can be cut at blanks again.
-/

namespace KeyConsole

/-- The settings of a connection. -/
structure Config where
  /-- The path of a file of databases, or the name of the first database. -/
  dbName : String
  /-- What is written between the members of a collection. -/
  delimiter : String
  /-- What stands between the namespaces of a key. -/
  nsSeparator : String
  /-- Whether a file that does not exist is created. -/
  createIfMissing : Bool
  deriving DecidableEq, Repr, Inhabited

namespace Config

/-- The settings for a database when nothing else is said. -/
def forDatabase (dbName : String) : Config where
  dbName := dbName
  delimiter := "\n"
  nsSeparator := ":"
  createIfMissing := false

/-! ## Escapes -/

/-- A character inside a value. -/
def escapeChar (c : Char) : List Char :=
  if c = '\\' then ['\\', '\\']
  else if c = '\n' then ['\\', 'n']
  else if c = '\r' then ['\\', 'r']
  else if c = '\t' then ['\\', 't']
  else if c = ' ' then ['\\', 's']
  else [c]

/-- The character that an escape stands for, given by its letter. -/
def escapedChar (c : Char) : Char :=
  if c = 'n' then '\n'
  else if c = 'r' then '\r'
  else if c = 't' then '\t'
  else if c = 's' then ' '
  else c

/-- Read the escapes in a value; a backslash at the end stands for itself. -/
def unescapeChars : List Char → List Char
  | '\\' :: c :: cs => escapedChar c :: unescapeChars cs
  | c :: cs => c :: unescapeChars cs
  | [] => []

/-- A value as it is written in a list of flags. -/
def escape (value : String) : String :=
  String.ofList (value.toList.flatMap escapeChar)

/-- The value that is written in a list of flags. -/
def unescape (text : String) : String :=
  String.ofList (unescapeChars text.toList)

theorem unescapeChars_escapeChar (c : Char) (cs : List Char) :
    unescapeChars (escapeChar c ++ cs) = c :: unescapeChars cs := by
  unfold escapeChar
  split
  · next h => subst h; rfl
  · split
    · next h => subst h; rfl
    · split
      · next h => subst h; rfl
      · split
        · next h => subst h; rfl
        · split
          · next h => subst h; rfl
          · next notBackslash _ _ _ _ => simp [unescapeChars, notBackslash]

/-- Reading undoes writing, whatever the value holds. -/
theorem unescape_escape (value : String) : unescape (escape value) = value := by
  have undone (cs : List Char) : unescapeChars (cs.flatMap escapeChar) = cs := by
    induction cs with
    | nil => rfl
    | cons c cs ih => rw [List.flatMap_cons, unescapeChars_escapeChar, ih]
  simp [unescape, escape, undone]

/-! ## Flags -/

/-- The settings after a flag with a value, if the flag is known. -/
def assign (config : Config) (flag value : String) : Option Config :=
  if flag = "-d" then some { config with delimiter := unescape value }
  else if flag = "-ns" then some { config with nsSeparator := unescape value }
  else if flag = "-f" then some { config with dbName := unescape value }
  else none

/-- Apply flags up to the first that is unknown or lacks its value, and count
the texts that were used. -/
def applyArgs (config : Config) : List String → Config × Nat
  | [] => (config, 0)
  | [flag] => if flag = "-c" then ({ config with createIfMissing := true }, 1) else (config, 0)
  | flag :: value :: rest =>
    if flag = "-c" then
      let (applied, used) := applyArgs { config with createIfMissing := true } (value :: rest)
      (applied, used + 1)
    else
      match config.assign flag value with
      | some assigned =>
        let (applied, used) := applyArgs assigned rest
        (applied, used + 2)
      | none => (config, 0)

/-- Apply the flags of a line. -/
def applyLine (config : Config) (line : String) : Config × Nat :=
  config.applyArgs (Text.words line)

/-- The flags that give these settings. -/
def toArgs (config : Config) : List String :=
  ["-f", escape config.dbName, "-d", escape config.delimiter, "-ns",
      escape config.nsSeparator]
    ++ if config.createIfMissing then ["-c"] else []

/-- The flags in one line. -/
def line (config : Config) : String :=
  Text.join " " config.toArgs

/-! ## Paths -/

/-- A path inside a directory: an absolute path stands for itself, and one
slash stands between the two otherwise. -/
def joinPath (directory path : List Char) : List Char :=
  if path.head? = some '/' then path
  else if directory.isEmpty || directory.getLast? = some '/' then directory ++ path
  else directory ++ '/' :: path

/-- The path of the file of databases, where `~/` stands for the home
directory if there is one. -/
def path (config : Config) (home : Option String) : String :=
  match config.dbName.toList, home with
  | '~' :: '/' :: rest, some home => String.ofList (joinPath home.toList rest)
  | _, _ => config.dbName

end Config

end KeyConsole
