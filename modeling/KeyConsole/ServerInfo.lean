import KeyConsole.Backend.Kind
import KeyConsole.Error
import KeyConsole.Item
import KeyConsole.Text.Blank

/-!
# Descriptions of servers and databases

A backend reports its figures as a text of `name:value` lines under headings
that begin with `#`.  The text can be read back into figures; lines that are
not known are passed over.
-/

namespace KeyConsole

/-- The description of a database. -/
structure DatabaseInfo where
  backend : BackendKind
  name : String
  /-- Whether it is the current database. -/
  isDefault : Bool
  /-- How many items it holds. -/
  size : Nat
  /-- Its keys, when they are listed. -/
  keys : List Item := []

/-- The figures of a backend in memory. -/
structure MemoryFigures where
  databases : Nat := 0
  currentDatabase : String := ""
  keys : Nat := 0
  getOps : Nat := 0
  setOps : Nat := 0
  delOps : Nat := 0
  expiredKeys : Nat := 0
  usedMemory : Nat := 0
  deriving DecidableEq, Repr, Inhabited

/-- The figures of a backend in a file. -/
structure FileFigures where
  filePath : String := ""
  fileSize : Nat := 0
  databases : Nat := 0
  currentDatabase : String := ""
  keys : Nat := 0
  deriving DecidableEq, Repr, Inhabited

/-- The figures of a backend of either kind. -/
inductive ServerInfo where
  | memory (figures : MemoryFigures)
  | tableFile (figures : FileFigures)
  deriving DecidableEq, Repr

namespace ServerInfo

/-- The kind of the backend that the figures describe. -/
def kind : ServerInfo → BackendKind
  | memory _ => .memory
  | tableFile _ => .tableFile

/-! ## Writing -/

/-- A line with a name and a value. -/
def fieldLine (name value : String) : String :=
  name ++ ":" ++ value ++ "\n"

/-- A line with a name and a number. -/
def countLine (name : String) (n : Nat) : String :=
  fieldLine name (Text.natural n)

/-- The text of the figures. -/
def toText : ServerInfo → String
  | memory f =>
    "# Server\n" ++ fieldLine "backend" BackendKind.memory.name
      ++ countLine "databases" f.databases
      ++ fieldLine "current_database" f.currentDatabase
      ++ "# Stats\n" ++ countLine "keys" f.keys
      ++ countLine "get_ops" f.getOps
      ++ countLine "set_ops" f.setOps
      ++ countLine "del_ops" f.delOps
      ++ countLine "expired_keys" f.expiredKeys
      ++ countLine "used_memory" f.usedMemory
  | tableFile f =>
    "# Server\n" ++ fieldLine "backend" BackendKind.tableFile.name
      ++ fieldLine "file_path" f.filePath
      ++ countLine "file_size" f.fileSize
      ++ countLine "databases" f.databases
      ++ fieldLine "current_database" f.currentDatabase
      ++ "# Stats\n" ++ countLine "keys" f.keys

/-! ## Reading -/

/-- The name and the value on a line, without the blanks around them. -/
def field? (line : String) : Option (String × String) :=
  (Text.cutAt ':' line.toList).map fun (name, value) =>
    (String.ofList (Text.trimChars name), String.ofList (Text.trimChars value))

/-- The fields of a text.  Empty lines, headings and lines without a colon
hold none. -/
def fields (text : String) : List (String × String) :=
  (((Text.lines text).map Text.trim).filter fun line =>
    !line.isEmpty && line.toList.head? != some '#').filterMap field?

/-- The number in a field. -/
def number (name value : String) : Except Error Nat :=
  match Text.word? value with
  | some n => .ok n
  | none => .error (.invalidArgument ("invalid value for " ++ name ++ ": " ++ value))

end ServerInfo

/-- The figures of a backend in memory after one more field. -/
def MemoryFigures.read (f : MemoryFigures) (field : String × String) :
    Except Error MemoryFigures :=
  let (name, value) := field
  if name = "databases" then (ServerInfo.number name value).map fun n => { f with databases := n }
  else if name = "current_database" then .ok { f with currentDatabase := value }
  else if name = "keys" then (ServerInfo.number name value).map fun n => { f with keys := n }
  else if name = "get_ops" then (ServerInfo.number name value).map fun n => { f with getOps := n }
  else if name = "set_ops" then (ServerInfo.number name value).map fun n => { f with setOps := n }
  else if name = "del_ops" then (ServerInfo.number name value).map fun n => { f with delOps := n }
  else if name = "expired_keys" then (ServerInfo.number name value).map fun n => { f with expiredKeys := n }
  else if name = "used_memory" then (ServerInfo.number name value).map fun n => { f with usedMemory := n }
  else .ok f

/-- The figures of a backend in a file after one more field. -/
def FileFigures.read (f : FileFigures) (field : String × String) : Except Error FileFigures :=
  let (name, value) := field
  if name = "file_path" then .ok { f with filePath := value }
  else if name = "file_size" then (ServerInfo.number name value).map fun n => { f with fileSize := n }
  else if name = "databases" then (ServerInfo.number name value).map fun n => { f with databases := n }
  else if name = "current_database" then .ok { f with currentDatabase := value }
  else if name = "keys" then (ServerInfo.number name value).map fun n => { f with keys := n }
  else .ok f

namespace ServerInfo

/-- Read the figures of a backend.  A field that is missing keeps zero or the
empty text, and of a repeated field the last counts. -/
def ofText (kind : BackendKind) (text : String) : Except Error ServerInfo :=
  match kind with
  | .memory => ((fields text).foldlM MemoryFigures.read {}).map memory
  | .tableFile => ((fields text).foldlM FileFigures.read {}).map tableFile

end ServerInfo

end KeyConsole
