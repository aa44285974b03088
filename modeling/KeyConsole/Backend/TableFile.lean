import KeyConsole.Backend.Basic
import KeyConsole.Backend.FileTree
import KeyConsole.ServerInfo

/-!
# The backend in a file

Every database is a table of one file.  The handle owns the contents of the
file while the connection is open, and nobody else can read them meanwhile.
Every change is committed before the action ends, so the tables that the handle
holds are always the committed ones, and closing the file adds nothing to them.
How they are laid out in the file is left open, and with it how large the file
is: that is for the host to tell.  Keys cannot expire.
-/

namespace KeyConsole.TableFile

/-- A database: stored bytes under keys. -/
abbrev Table := OrderedMap Bytes Bytes

/-- The contents of a file: its tables by name. -/
abbrev Tables := OrderedMap String Table

/-- The files, and the home directory if there is one. -/
structure Host where
  home : Option String
  tree : FileTree Tables
  /-- How many bytes the file at a path is said to have at an instant, if this can be told. -/
  sizeAt : String → Instant → Option UInt64 := fun _ _ => none

/-- An open file. -/
structure OpenFile where
  /-- The path by which it was opened. -/
  path : String
  /-- Where the file is. -/
  location : Location
  /-- What has been committed to the file. -/
  tables : Tables
  /-- The name of the current table. -/
  current : String
  /-- How many bytes the file is said to have at an instant, if this can be told. -/
  sizeAt : Instant → Option UInt64

/-- An action on an open file. -/
abbrev Action (α : Type) := HandleAction OpenFile α

/-- The table that is current when a file has been opened. -/
def defaultTable : String := "default"

/-! ## Refusals -/

/-- A table of this name is there already. -/
def alreadyExists (name : String) : Refusal :=
  .other 3 ("table '" ++ name ++ "' already exists")

/-- The table is the current one. -/
def inUse (name : String) : Refusal :=
  .other 4 ("table '" ++ name ++ "' is in use")

/-- The name is blank. -/
def invalidName (name : String) : Refusal :=
  .other 6 ("invalid table name '" ++ name ++ "'")

/-- There is no file, and none is to be created. -/
def missingFile (path : String) : String :=
  "database file " ++ path ++ " does not exist (use -c to create it)"

/-- The file cannot be opened or created where the path leads. -/
def unusablePath (fault : PathFault) : String :=
  "I/O error: " ++ fault.message

/-! ## Actions -/

/-- The tables with the default one, which is created if it is missing. -/
def withDefault (tables : Tables) : Tables :=
  if tables.contains defaultTable then tables
  else tables.insert defaultTable OrderedMap.empty

/-- Open the file of the settings, which is created if it is missing and the
settings say so. -/
def acquire (config : Config) : Step String Host OpenFile := fun host =>
  let path := config.path host.home
  let openAt (location : Location) (tables : Tables) : EStateM.Result (Halt String) Host OpenFile :=
    let tables := withDefault tables
    .ok ⟨path, location, tables, defaultTable, host.sizeAt path⟩
      { host with tree := host.tree.write location tables }
  match host.tree.resolve path with
  | .ok .directory => .error (.refused (unusablePath .isDirectory)) host
  | .ok (.file location tables) => openAt location tables
  | .ok (.vacant location) =>
    if config.createIfMissing then openAt location OrderedMap.empty
    else .error (.refused (missingFile path)) host
  | .error fault =>
    if config.createIfMissing then .error (.refused (unusablePath fault)) host
    else .error (.refused (missingFile path)) host

/-- Close the file.  What has been committed to it is in the tree from then on, where every
later connection finds it; closing commits nothing itself. -/
def release (file : OpenFile) : Step Refusal Host Unit :=
  modify fun host => { host with tree := host.tree.write file.location file.tables }

/-- Read the current table. -/
def fromTable {α : Type} (read : Table → α) : Action α := fun file =>
  match file.tables.get? file.current with
  | none => .error (.refused (.missingDatabase file.current)) file
  | some table => .ok (read table) file

/-- Change the current table, which is created if it is missing, and commit the change. -/
def onTable {α : Type} (act : Table → α × Table) : Action α := fun file =>
  let (result, table) := act ((file.tables.get? file.current).getD OrderedMap.empty)
  .ok result { file with tables := file.tables.insert file.current table }

/-- The names of the tables in order. -/
def databases : Action (List String) := do
  return (← get).tables.keys

/-- Create an empty table. -/
def createDatabase (name : String) : Action Unit := fun file =>
  if Text.isBlankText name then .error (.refused (invalidName name)) file
  else if file.tables.contains name then .error (.refused (alreadyExists name)) file
  else .ok () { file with tables := file.tables.insert name OrderedMap.empty }

/-- Remove a table.  The empty name cannot be looked up, and the action breaks
down. -/
def removeDatabase (name : String) : Action Unit := fun file =>
  if name = file.current then .error (.refused (inUse name)) file
  else if name.isEmpty then .error .broken file
  else if file.tables.contains name then
    .ok () { file with tables := file.tables.erase name }
  else .error (.refused (.missingDatabase name)) file

/-- Make a table current.  The empty name cannot be looked up, and the action
breaks down. -/
def selectDatabase (name : String) : Action Unit := fun file =>
  if name.isEmpty then .error .broken file
  else if file.tables.contains name then .ok () { file with current := name }
  else .error (.refused (.missingDatabase name)) file

/-- How many items the current table holds. -/
def count : Action Nat :=
  fromTable OrderedMap.size

/-- The keys of a table from one key to another, found at once in its order. -/
def keysBetween (table : Table) (first last : Key) : List Key :=
  (table.keys.dropWhile fun key => decide (key < first)).takeWhile fun key =>
    decide (key ≤ last)

/-- Collect keys until there are as many as the limit allows. -/
def collect (limit : Nat) (found : List Key) : List Key → List Key
  | [] => found
  | key :: keys =>
    let found := found ++ [key]
    if found.length = limit then found else collect limit found keys

/-- The first keys from one key to another, up to a limit. -/
def rangeKeys (first last : Key) (limit : Nat) : Action (List Key) :=
  if limit = 0 ∨ last < first then pure []
  else fromTable fun table => collect limit [] (keysBetween table first last)

/-- The figures as a text.  A file whose size cannot be told counts as empty. -/
def statsText (now : Instant) : Action String := do
  let keys ← count
  let file ← get
  let info := ServerInfo.tableFile
    { filePath := file.path
      fileSize := ((file.sizeAt now).getD 0).toNat
      databases := file.tables.size
      currentDatabase := file.current
      keys := keys }
  return info.toText

/-- The backend in a file. -/
def backend : Backend where
  Host := Host
  Handle := OpenFile
  kind := .tableFile
  capabilities := ⟨true, false⟩
  acquire := acquire
  release := release
  get _ key := fromTable (·.get? key)
  put _ key value := onTable fun table => ((), table.insert key value)
  remove _ key := onTable fun table => (table.contains key, table.erase key)
  keys _ := fromTable OrderedMap.keys
  rangeKeys _ := rangeKeys
  count _ := count
  clear := onTable fun _ => ((), OrderedMap.empty)
  currentDatabase := OpenFile.current
  databases := databases
  createDatabase := createDatabase
  removeDatabase := removeDatabase
  selectDatabase := selectDatabase
  statsText := statsText
  expire _ _ _ := Backend.neverExpire
  ttl _ _ := Backend.endlessTtl
  extraCommands := []

end KeyConsole.TableFile
