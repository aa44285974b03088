import KeyConsole.Backend.Basic

/-!
# A backend that refuses

One map in memory that refuses actions on marked keys, or while a marked key
is there.  It shows what becomes of an operation when one of its steps fails.
-/

namespace KeyConsole.Guarded

/-- The items of an open connection. -/
abbrev Items := OrderedMap Bytes Bytes

/-- An action on the items. -/
abbrev Action (α : Type) := HandleAction Items α

/-- The refusal of an action. -/
def refusedText : String := "refused"

/-- Refuse. -/
def refuse {α : Type} : Action α :=
  Step.refuse (.other 99 refusedText)

/-- A marked key. -/
def marked (name : String) : Key :=
  Text.encode name

/-- The name of the only database. -/
def mainName : String := "main"

/-- Open a connection, unless its database is called `refuse`. -/
def acquire (config : Config) : Step String Unit Items :=
  if config.dbName = "refuse" then Step.refuse refusedText else pure OrderedMap.empty

/-- Close a connection, unless the key `noclose` is there. -/
def release (items : Items) : Step Refusal Unit Unit :=
  if items.contains (marked "noclose") then Step.refuse (.other 99 refusedText) else pure ()

/-- The value of any key but `noget`. -/
def get (key : Key) : Action (Option Bytes) := fun items =>
  if key = marked "noget" then refuse items else .ok (items.get? key) items

/-- Store a value under any key but `noput`. -/
def put (key : Key) (value : Bytes) : Action Unit := fun items =>
  if key = marked "noput" then refuse items else .ok () (items.insert key value)

/-- Remove any key but `nodel`. -/
def remove (key : Key) : Action Bool := fun items =>
  if key = marked "nodel" then refuse items
  else .ok (items.contains key) (items.erase key)

/-- The keys in order, unless the key `novisit` is there. -/
def keys : Action (List Key) := fun items =>
  if items.contains (marked "novisit") then refuse items else .ok items.keys items

/-- The text stored under the key `stats`. -/
def statsText : Action String := fun items =>
  match items.get? (marked "stats") with
  | some bytes => .ok (Text.lossy bytes) items
  | none => refuse items

/-- How many items there are. -/
def count : Action Nat := fun items =>
  .ok items.size items

/-- Remove every item. -/
def clear : Action Unit := fun _ =>
  .ok () OrderedMap.empty

/-- Make the only database current, which it is. -/
def selectDatabase (name : String) : Action Unit :=
  if name = mainName then pure () else Step.refuse (.missingDatabase name)

/-- The backend with given capabilities. -/
def backend (capabilities : Capabilities) : Backend where
  Host := Unit
  Handle := Items
  kind := .memory
  capabilities := capabilities
  acquire := acquire
  release := release
  get _ := get
  put _ := put
  remove _ := remove
  keys _ := keys
  rangeKeys _ := Backend.walkRange keys
  count _ := count
  clear := clear
  currentDatabase _ := mainName
  databases := refuse
  createDatabase _ := refuse
  removeDatabase name := Step.refuse (.missingDatabase name)
  selectDatabase := selectDatabase
  statsText _ := statsText
  expire _ _ _ := Backend.neverExpire
  ttl _ _ := Backend.endlessTtl
  extraCommands := []

end KeyConsole.Guarded
