import KeyConsole.Backend.Kind
import KeyConsole.Command.Info
import KeyConsole.Item
import KeyConsole.Storage.Engine

/-!
# Backends

A backend keeps stored bytes under keys, in databases of which one is current.
It is given by primitive actions on the handle of an open connection.  What
outlives a connection is its host: a handle is taken from it when the
connection opens, and given back when it closes.
-/

namespace KeyConsole

/-- Why a backend refuses. -/
inductive Refusal where
  /-- It has no database of this name. -/
  | missingDatabase (name : String)
  /-- Any other reason, with its code. -/
  | other (code : Int) (text : String)
  deriving DecidableEq, Repr

/-- The error that reports a refusal of a command. -/
def Refusal.error (command : String) : Refusal → Error
  | missingDatabase name => .databaseNotFound name
  | other code text => .native code (command ++ ": " ++ text)

/-- An action on the handle of an open connection. -/
abbrev HandleAction (handle α : Type) := Step Refusal handle α

/-- What a backend can do besides the operations that all have. -/
structure Capabilities where
  /-- Whether keys can be renamed. -/
  rename : Bool
  /-- Whether keys can expire. -/
  ttl : Bool
  deriving DecidableEq, Repr

/-- A command that only one backend has.  It acts on the open handle alone: the settings, the
interrupt flag and whether there is a connection are out of its reach.  The only such command
there is drops the expired keys of a database in memory. -/
structure HandleCommand (handle : Type) where
  info : CommandInfo
  /-- The action, which replies values. -/
  run : Instant → List Bytes → HandleAction handle (List Value)

/-- A backend. -/
structure Backend where
  /-- What outlives a connection. -/
  Host : Type
  /-- The state of an open connection. -/
  Handle : Type
  kind : BackendKind
  capabilities : Capabilities
  /-- Open a connection; a refusal is told in words. -/
  acquire : Config → Step String Host Handle
  /-- Close a connection. -/
  release : Handle → Step Refusal Host Unit
  /-- The bytes stored under a key. -/
  get : Instant → Key → HandleAction Handle (Option Bytes)
  /-- Store bytes under a key. -/
  put : Instant → Key → Bytes → HandleAction Handle Unit
  /-- Remove a key, and tell whether it was there, if this can be told. -/
  remove : Instant → Key → HandleAction Handle Bool
  /-- The keys of the current database in ascending order. -/
  keys : Instant → HandleAction Handle (List Key)
  /-- The first keys from one key to another, up to a limit. -/
  rangeKeys : Instant → Key → Key → Nat → HandleAction Handle (List Key)
  /-- How many items the current database holds. -/
  count : Instant → HandleAction Handle Nat
  /-- Remove every item of the current database. -/
  clear : HandleAction Handle Unit
  /-- The name of the current database. -/
  currentDatabase : Handle → String
  /-- The names of the databases in order. -/
  databases : HandleAction Handle (List String)
  /-- Create an empty database. -/
  createDatabase : String → HandleAction Handle Unit
  /-- Remove a database that is not current. -/
  removeDatabase : String → HandleAction Handle Unit
  /-- Make a database current. -/
  selectDatabase : String → HandleAction Handle Unit
  /-- The figures as a text. -/
  statsText : Instant → HandleAction Handle String
  /-- Let a key expire after some seconds, and tell whether it is there. -/
  expire : Instant → Key → Nat → HandleAction Handle Bool
  /-- The seconds until a key expires: minus one if it never does, minus two if
  there is no such key. -/
  ttl : Instant → Key → HandleAction Handle Int
  /-- The commands that only this backend has. -/
  extraCommands : List (HandleCommand Handle)

namespace Backend

/-- See one key on a walk that collects the keys from one key to another, and
tell whether to go on. -/
def visitInRange (first last : Key) (limit : Nat) (found : List Key) (key : Key) :
    List Key × Bool :=
  if last < key then (found, false)
  else
    let found := if first ≤ key then found ++ [key] else found
    (found, found.length < limit)

/-- See keys one by one as long as there is a reason to go on. -/
def collectInRange (first last : Key) (limit : Nat) (found : List Key) : List Key → List Key
  | [] => found
  | key :: keys =>
    match visitInRange first last limit found key with
    | (found, true) => collectInRange first last limit found keys
    | (found, false) => found

/-- The first keys in a range, found by walking through all keys in order. -/
def walkRange {handle : Type} (keys : HandleAction handle (List Key))
    (first last : Key) (limit : Nat) : HandleAction handle (List Key) :=
  if limit = 0 then pure []
  else do
    let all ← keys
    return collectInRange first last limit [] all

/-- Expiry on a backend whose keys never expire: nothing changes. -/
def neverExpire {handle : Type} : HandleAction handle Bool :=
  pure false

/-- The time to live on a backend whose keys never expire. -/
def endlessTtl {handle : Type} : HandleAction handle Int :=
  pure (-1)

end Backend

end KeyConsole
