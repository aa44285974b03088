import KeyConsole.Backend.Basic
import KeyConsole.ServerInfo

/-!
# The backend in memory

Every database is an engine, and all of them belong to the handle: closing the
connection discards them.  Keys can expire, and one more command drops those
that have.
-/

namespace KeyConsole.Memory

open KeyConsole.Storage

/-- The databases of an open connection. -/
structure Store where
  databases : OrderedMap String Engine
  /-- The name of the current database. -/
  current : String

/-- An action on the databases. -/
abbrev Action (α : Type) := HandleAction Store α

/-! ## Refusals -/

/-- A database of this name is there already. -/
def alreadyExists (name : String) : Refusal :=
  .other 2 ("database '" ++ name ++ "' already exists")

/-- The database is the current one. -/
def inUse (name : String) : Refusal :=
  .other 3 ("database '" ++ name ++ "' is in use")

/-- What is wrong with a blank name. -/
def invalidNameText (name : String) : String :=
  "invalid database name '" ++ name ++ "'"

/-- The name is blank. -/
def invalidName (name : String) : Refusal :=
  .other 4 (invalidNameText name)

/-! ## Actions -/

/-- Act on the engine of the current database, which is always there. -/
def onEngine {α : Type} (act : Engine → α × Engine) : Action α := fun store =>
  match store.databases.get? store.current with
  | none => .error .broken store
  | some engine =>
    let (result, engine) := act engine
    .ok result { store with databases := store.databases.insert store.current engine }

/-- Read the engine of the current database. -/
def fromEngine {α : Type} (read : Engine → α) : Action α :=
  onEngine fun engine => (read engine, engine)

/-- Open a connection with one empty database, whose name must not be
blank. -/
def acquire (config : Config) : Step String Unit Store :=
  let name := Text.trim config.dbName
  if name.isEmpty then Step.refuse (invalidNameText config.dbName)
  else pure ⟨OrderedMap.singleton name (Engine.empty spread), name⟩

/-- Let a live key expire.  The action breaks down when the clock cannot show
the deadline. -/
def expire (now : Instant) (key : Key) (seconds : Nat) : Action Bool := fun store =>
  match store.databases.get? store.current with
  | none => .error .broken store
  | some engine =>
    match engine.expire now key seconds with
    | none => .error .broken store
    | some (found, engine) =>
      .ok found { store with databases := store.databases.insert store.current engine }

/-- How many keys are live, once the expired ones are dropped. -/
def count (now : Instant) : Action Nat :=
  onEngine fun engine =>
    let (_, engine) := engine.cleanupExpired now
    (engine.len, engine)

/-- Create an empty database. -/
def createDatabase (name : String) : Action Unit := fun store =>
  if Text.isBlankText name then .error (.refused (invalidName name)) store
  else if store.databases.contains name then .error (.refused (alreadyExists name)) store
  else
    .ok () { store with databases := store.databases.insert name (Engine.empty spread) }

/-- Remove a database. -/
def removeDatabase (name : String) : Action Unit := fun store =>
  if name = store.current then .error (.refused (inUse name)) store
  else if store.databases.contains name then
    .ok () { store with databases := store.databases.erase name }
  else .error (.refused (.missingDatabase name)) store

/-- Make a database current. -/
def selectDatabase (name : String) : Action Unit := fun store =>
  if store.databases.contains name then .ok () { store with current := name }
  else .error (.refused (.missingDatabase name)) store

/-- The figures of the current database and of the store. -/
def serverInfo (store : Store) (figures : Figures) : ServerInfo :=
  .memory
    { databases := store.databases.size
      currentDatabase := store.current
      keys := figures.liveKeys
      getOps := figures.getOps
      setOps := figures.setOps
      delOps := figures.delOps
      expiredKeys := figures.expired
      usedMemory := figures.usedMemory }

/-- The figures as a text. -/
def statsText (now : Instant) : Action String := do
  let figures ← fromEngine (·.figures now)
  return (serverInfo (← get) figures).toText

/-- Drop the expired keys of the current database and count them. -/
def purge (now : Instant) : Action Nat :=
  onEngine (·.cleanupExpired now)

/-- The command that drops the expired keys. -/
def purgeCommand : HandleCommand Store where
  info :=
    { name := "PURGE"
      params := ""
      summary := "Drop expired keys of the current database"
      since := some "0.1.0"
      sample := none
      minArgs := 0
      extraArgs := 0 }
  run now _ := do
    let dropped ← purge now
    return [.integer (Int64.ofNat dropped)]

/-- The backend in memory. -/
def backend : Backend where
  Host := Unit
  Handle := Store
  kind := .memory
  capabilities := ⟨true, true⟩
  acquire := acquire
  release _ := pure ()
  get now key := onEngine (·.get now key)
  put now key value := do
    let _ ← onEngine (·.set now key value)
  remove now key := onEngine (·.delete now key)
  keys now := fromEngine (·.sortedKeys now)
  rangeKeys now := Backend.walkRange (fromEngine (·.sortedKeys now))
  count := count
  clear := onEngine fun engine => ((), engine.flush)
  currentDatabase := Store.current
  databases := do return (← get).databases.keys
  createDatabase := createDatabase
  removeDatabase := removeDatabase
  selectDatabase := selectDatabase
  statsText := statsText
  expire := expire
  ttl now key := do return (← onEngine (·.ttl now key)).getD (-2)
  extraCommands := [purgeCommand]

end KeyConsole.Memory
