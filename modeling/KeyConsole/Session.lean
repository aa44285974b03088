import KeyConsole.Backend.Basic
import KeyConsole.Glob
import KeyConsole.ServerInfo
import KeyConsole.Value.Encoding

/-!
# Sessions

A session works on one backend.  It is connected while it has a handle, and
every operation but opening and closing needs one.  Operations with several
steps stop at the first step that fails, and what was done before it stays
done.
-/

namespace KeyConsole

/-- A session on a backend. -/
structure Session (B : Backend) where
  config : Config
  /-- What outlives a connection. -/
  host : B.Host
  /-- The handle while the session is connected. -/
  handle : Option B.Handle
  /-- Whether a running script is asked to stop. -/
  interrupted : Bool

namespace Session

variable {B : Backend}

/-- A session that is not connected. -/
def new (config : Config) (host : B.Host) : Session B where
  config := config
  host := host
  handle := none
  interrupted := false

/-- An operation of a session. -/
abbrev Action (B : Backend) (α : Type) := Step Error (Session B) α

/-- Whether a session is connected. -/
def isConnected (session : Session B) : Bool :=
  session.handle.isSome

/-- Raise or lower the interrupt flag. -/
def setInterrupted (raised : Bool) : Action B Unit :=
  modify fun session => { session with interrupted := raised }

/-- Refuse unless connected. -/
def requireConnected : Action B Unit := fun session =>
  match session.handle with
  | none => .error (.refused .notConnected) session
  | some _ => .ok () session

theorem requireConnected_of_connected {session : Session B} {handle : B.Handle}
    (connected : session.handle = some handle) : requireConnected session = .ok () session := by
  simp only [requireConnected, connected]

/-- Run an action on the handle; a refusal is reported in the name of a
command. -/
def onHandle {α : Type} (command : String) (act : HandleAction B.Handle α) : Action B α :=
  fun session =>
    match session.handle with
    | none => .error (.refused .notConnected) session
    | some handle =>
      match act handle with
      | .ok result handle => .ok result { session with handle := some handle }
      | .error halt handle =>
        .error (halt.map (Refusal.error command)) { session with handle := some handle }

/-- Nothing can be done on the handle of a session that is not connected. -/
theorem onHandle_of_disconnected {α : Type} {session : Session B} (command : String)
    (act : HandleAction B.Handle α) (disconnected : session.handle = none) :
    onHandle command act session = .error (.refused .notConnected) session := by
  simp [onHandle, disconnected]

/-- An action on the handle leaves a connected session connected, and changes
nothing of it but the handle. -/
theorem finalState_onHandle {α : Type} {session : Session B} {handle : B.Handle}
    (command : String) (act : HandleAction B.Handle α) (connected : session.handle = some handle) :
    Step.finalState (onHandle command act session)
      = { session with handle := some (Step.finalState (act handle)) } := by
  simp only [onHandle, connected]
  cases act handle <;> rfl

/-- An action on the handle succeeds in a connected session in which the action itself
succeeds. -/
theorem onHandle_eq_ok_iff {α : Type} {session after : Session B} {command : String}
    {act : HandleAction B.Handle α} {result : α} :
    onHandle command act session = .ok result after ↔
      ∃ handle held, session.handle = some handle ∧ act handle = .ok result held ∧
        after = { session with handle := some held } := by
  unfold onHandle
  cases connected : session.handle with
  | none => simp
  | some handle =>
    cases ran : act handle with
    | error halt held => simp [ran]
    | ok value held =>
      simp only [ran]
      constructor
      · intro same
        cases same
        exact ⟨handle, held, rfl, ran, rfl⟩
      · rintro ⟨other, heldToo, isHandle, ranToo, rfl⟩
        cases isHandle
        cases ran.symm.trans ranToo
        rfl

/-! ## Connecting -/

/-- Connect, unless connected. -/
def connect : Action B Unit := fun session =>
  match session.handle with
  | some _ => .ok () session
  | none =>
    match B.acquire session.config session.host with
    | .ok handle host => .ok () { session with host := host, handle := some handle }
    | .error halt host => .error (halt.map .connectionFailed) { session with host := host }

/-- Disconnect, unless disconnected.  The handle is gone even when closing
fails. -/
def disconnect : Action B Unit := fun session =>
  match session.handle with
  | none => .ok () session
  | some handle =>
    match B.release handle session.host with
    | .ok _ host => .ok () { session with host := host, handle := none }
    | .error halt host =>
      .error (halt.map (Refusal.error "DISCONNECT")) { session with host := host, handle := none }

/-- Disconnect a connected session. -/
def quit : Action B Unit := do
  requireConnected
  disconnect

/-! ## Items -/

/-- Store an item and return it. -/
def set (now : Instant) (item : Item) : Action B Item := do
  onHandle "SET" (B.put now item.key item.value.encode)
  return item

/-- The item of a key. -/
def get (now : Instant) (key : Key) : Action B Item := do
  match ← onHandle "GET" (B.get now key) with
  | some raw => return ⟨key, Value.decode raw⟩
  | none => Step.refuse (.keyNotFound key.shown)

/-- Remove keys in turn; `removed` are those that have been there so far. -/
def deleteFrom (now : Instant) (removed : List Key) : List Key → Action B (List Key)
  | [] => pure removed
  | key :: keys => do
    let found ← onHandle "DEL" (B.remove now key)
    deleteFrom now (if found then removed ++ [key] else removed) keys

/-- Remove keys in turn and return those that have been there. -/
def delete (now : Instant) (keys : List Key) : Action B (List Key) := do
  requireConnected
  deleteFrom now [] keys

/-- Give the item of a key another key, by storing it there and removing it
here.  A key can be given to its own item, which changes nothing. -/
def rename (now : Instant) (key newKey : Key) : Action B Unit := do
  requireConnected
  if B.capabilities.rename then
    let item ← get now key
    if key = newKey then pure ()
    else
      let _ ← set now ⟨newKey, item.value⟩
      let _ ← delete now [key]
  else Step.refuse (.notSupported "RENAME" B.kind.name)

/-! ## Listings -/

/-- How far a walk through keys has come that collects a page of those that match. -/
structure Paging where
  /-- How many matching keys have been passed over or collected. -/
  position : Nat
  keys : List Key
  /-- Whether another matching key has been seen behind a full page. -/
  more : Bool

namespace Paging

/-- Nothing has been seen yet. -/
def start : Paging where
  position := 0
  keys := []
  more := false

/-- See one key, and tell whether to go on. -/
def visit (isMatch : Key → Bool) (cursor count : Nat) (paging : Paging) (key : Key) :
    Paging × Bool :=
  if !isMatch key then (paging, true)
  else if paging.position < cursor then
    ({ paging with position := paging.position + 1 }, true)
  else if paging.keys.length = count then ({ paging with more := true }, false)
  else
    ({ paging with position := paging.position + 1, keys := paging.keys ++ [key] }, true)

/-- See keys one by one as long as there is a reason to go on. -/
def walk (isMatch : Key → Bool) (cursor count : Nat) (paging : Paging) : List Key → Paging
  | [] => paging
  | key :: keys =>
    match paging.visit isMatch cursor count key with
    | (paging, true) => walk isMatch cursor count paging keys
    | (paging, false) => paging

/-- The keys collected from a cursor on and the cursor of the next page, which is zero
when there is none. -/
def page (cursor : Nat) (paging : Paging) : List Key × Nat :=
  (paging.keys, if paging.more then cursor + paging.keys.length else 0)

end Paging

/-- A page of the keys that match a pattern. -/
def scan (now : Instant) (cursor : Nat) (pattern : String) (count : Nat) :
    Action B (List Key × Nat) := do
  if count = 0 then Step.refuse (.invalidArgument "scan count must be positive")
  else
    let keys ← onHandle "SCAN" (B.keys now)
    let isMatch := Glob.isMatch (Glob.ofText pattern)
    return (Paging.start.walk isMatch cursor count keys).page cursor

/-- The first keys from one key to another, up to a limit. -/
def keys (now : Instant) (first last : Key) (limit : Nat) : Action B (List Key) := do
  requireConnected
  if last < first then return []
  else onHandle "KEYS" (B.rangeKeys now first last limit)

/-- How many items the current database holds. -/
def size (now : Instant) : Action B Nat :=
  onHandle "DBKCOUNT" (B.count now)

/-! ## Databases -/

/-- Remove every item of the current database. -/
def flush : Action B Unit :=
  onHandle "FLUSHDB" B.clear

/-- A description of a database that is empty or gone. -/
def emptyInfo (B : Backend) (name : String) : DatabaseInfo where
  backend := B.kind
  name := name
  isDefault := false
  size := 0

/-- Create a database. -/
def createDatabase (name : String) : Action B DatabaseInfo := do
  onHandle "CREATEDB" (B.createDatabase name)
  return emptyInfo B name

/-- Remove a database. -/
def removeDatabase (name : String) : Action B DatabaseInfo := do
  onHandle "REMOVEDB" (B.removeDatabase name)
  return emptyInfo B name

/-- The name of the current database. -/
def currentDatabase : Action B String :=
  onHandle "DATABASES" do return B.currentDatabase (← MonadState.get)

/-- The description of the current database. -/
def currentInfo (now : Instant) : Action B DatabaseInfo := do
  let size ← size now
  let name ← currentDatabase
  return { backend := B.kind, name := name, isDefault := true, size := size }

/-- Make a database current. -/
def selectDatabase (now : Instant) (name : String) : Action B DatabaseInfo := do
  onHandle "SELECT" (B.selectDatabase name)
  currentInfo now

/-- The names of the databases in order. -/
def databases : Action B (List String) :=
  onHandle "DATABASES" B.databases

/-! ## Figures -/

/-- The figures as a text. -/
def infoText (now : Instant) : Action B String :=
  onHandle "INFO" (B.statsText now)

/-- The figures, read from their text. -/
def serverInfo (now : Instant) : Action B ServerInfo := do
  Step.ofExcept (ServerInfo.ofText B.kind (← infoText now))

/-! ## Expiry -/

/-- Refuse an operation on expiry if the backend has none. -/
def requireTtl (operation : String) : Action B Unit := do
  requireConnected
  if B.capabilities.ttl then pure ()
  else Step.refuse (.notSupported operation B.kind.name)

/-- Let a key expire after some seconds, and tell whether it is there. -/
def expire (now : Instant) (key : Key) (seconds : Nat) : Action B Bool := do
  requireTtl "EXPIRE"
  onHandle "EXPIRE" (B.expire now key seconds)

/-- The seconds until a key expires: minus one if it never does, minus two if
there is no such key. -/
def ttl (now : Instant) (key : Key) : Action B Int := do
  requireTtl "TTL"
  onHandle "TTL" (B.ttl now key)

end Session

end KeyConsole
