import KeyConsole.Command.Info
import KeyConsole.ServerInfo
import KeyConsole.Text.Pieces
import KeyConsole.Value.Rendering

/-!
# Requests and what comes of them

A driver is asked by a request.  While it works it emits outputs and progress,
and in the end it answers with a response or an error.
-/

namespace KeyConsole

/-- A request about single keys. -/
inductive KeyRequest where
  | load (key : Key)
  | create (item : Item)
  | delete (keys : List Key)
  | rename (key newKey : Key)
  | changeTtl (key : Key) (seconds : Nat)

/-- What a driver can be asked to do. -/
inductive Request where
  | connect
  | disconnect
  /-- Run the command lines of a script. -/
  | execute (script : String)
  /-- A page of the keys of the current database. -/
  | loadContent (cursor : Nat) (pattern : String) (count : Nat)
  | clear
  | serverInfo
  /-- The figures together with the current database. -/
  | discovery
  /-- The descriptions of all commands. -/
  | commands
  | key (request : KeyRequest)

/-- The short name of a request. -/
def Request.name : Request → String
  | connect => "connect"
  | disconnect => "disconnect"
  | execute _ => "execute"
  | loadContent _ _ _ => "load_database_content"
  | clear => "clear_database"
  | serverInfo => "server_info"
  | discovery => "discovery_info"
  | commands => "server_commands"
  | key (.load _) => "key_load"
  | key (.create _) => "key_create"
  | key (.delete _) => "key_delete"
  | key (.rename _ _) => "key_rename"
  | key (.changeTtl _ _) => "key_change_ttl"

/-- The replies of a command line. -/
structure CommandResult where
  command : String
  values : List Value

/-- The replies for a reader. -/
def CommandResult.text (delimiter : String) (result : CommandResult) : String :=
  Text.join delimiter (result.values.map (Value.display delimiter))

/-- The answer to a request that succeeds. -/
inductive Response where
  | connected
  | disconnected
  /-- All lines of a script have been run. -/
  | executed (lines : Nat)
  /-- A page of keys, the cursor of the next page, and the size of the
  database. -/
  | content (keys : List Item) (cursor dbKeysCount : Nat)
  | cleared
  | serverInfo (server : ServerInfo)
  | discovery (server : ServerInfo) (database : DatabaseInfo)
  | commands (infos : List CommandInfo)
  | loaded (item : Item)
  | created (item : Item)
  | deleted (keys : List Key)
  | renamed (key newKey : Key)
  | ttlChanged (key : Key) (applied : Bool)

/-- What a driver emits while it works on a request. -/
inductive Event where
  /-- How much is done, in percent. -/
  | progress (percent : Nat)
  /-- The result of one line of a script. -/
  | output (result : CommandResult)

end KeyConsole
