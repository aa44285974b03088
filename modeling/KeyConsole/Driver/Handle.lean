import KeyConsole.Command.Builtin
import KeyConsole.Driver.Request

/-!
# Handling requests

A driver is a session together with the commands of its backend.  A script is
run line by line, each line at its own instant, until a line fails, the
interrupt flag is up, or no line is left.  The flag is lowered when a script
begins; who listens to the outputs may raise it while one arrives.
-/

namespace KeyConsole

variable {B : Backend}

namespace Session

/-- Run one call; `line` is the text it is known by.  The replies of a call
that fails are dropped, but not what it has done. -/
def runCall (now : Instant) (line : String) (argv : List Bytes) : Action B CommandResult :=
  fun session =>
    match B.commands.execute now argv ⟨session, []⟩ with
    | .ok _ exchange => .ok ⟨line, exchange.replies⟩ exchange.context
    | .error halt exchange => .error halt exchange.context

/-- Run one command line. -/
def runLine (now : Instant) (line : String) : Action B CommandResult := do
  let argv ← Step.ofExcept (CommandLine.tokens line)
  runCall now line argv

/-! ## Pages of keys by way of the scan command -/

/-- The reply of a scan was not understood. -/
def malformedReply : Error :=
  .invalidArgument "malformed SCAN reply"

/-- The key that a value names in a reply. -/
def keyOfReply : Value → Except Error Key
  | .string text => .ok (Text.encode text)
  | .byteArray bytes => .ok bytes
  | _ => .error malformedReply

/-- The number in a reply. -/
def cursorOfReply (value : Value) : Except Error Nat :=
  match value.text?.bind Text.word? with
  | some n => .ok n
  | none => .error malformedReply

/-- The keys and the next cursor in the reply of a scan. -/
def readScanReply (values : List Value) : Except Error (List Key × Nat) :=
  match values.head?.bind Value.items? with
  | some [cursor, keys] => do
    let next ← cursorOfReply cursor
    match keys.items? with
    | some items => do return (← items.mapM keyOfReply, next)
    | none => .error malformedReply
  | _ => .error malformedReply

/-- The call that asks for a page of keys. -/
def scanCall (cursor : Nat) (pattern : String) (count : Nat) : List Bytes :=
  ["SCAN", Text.natural cursor, "MATCH", pattern, "COUNT", Text.natural count].map Text.encode

/-- The line of the call that asks for a page of keys. -/
def scanLine (cursor : Nat) (pattern : String) (count : Nat) : String :=
  "SCAN " ++ Text.natural cursor ++ " MATCH "
    ++ Value.render " " .command (.string pattern)
    ++ " COUNT " ++ Text.natural count

/-- A page of keys and the size of the database. -/
def loadContent (now : Instant) (cursor : Nat) (pattern : String) (count : Nat) :
    Action B Response := do
  let result ← runCall now (scanLine cursor pattern count) (scanCall cursor pattern count)
  let (found, next) ← Step.ofExcept (readScanReply result.values)
  let total ← size now
  return .content (found.map Item.skeleton) next total

/-! ## Requests other than scripts -/

/-- Handle a request about keys. -/
def handleKey (now : Instant) : KeyRequest → Action B Response
  | .load key => do return .loaded (← get now key)
  | .create item => do return .created (← set now item)
  | .delete keys => do return .deleted (← delete now keys)
  | .rename key newKey => do
    rename now key newKey
    return .renamed key newKey
  | .changeTtl key seconds => do return .ttlChanged key (← expire now key seconds)

end Session

/-! ## Scripts -/

/-- A session with what has been emitted for the request under way. -/
structure Running (B : Backend) where
  session : Session B
  events : List Event

namespace Running

/-- A step of a request. -/
abbrev Action (B : Backend) (α : Type) := Step Error (Running B) α

/-- Run an operation of the session. -/
def inSession {α : Type} (operation : Session.Action B α) : Action B α := fun running =>
  match operation running.session with
  | .ok result session => .ok result { running with session := session }
  | .error halt session => .error halt { running with session := session }

/-- Emit an event. -/
def emit (event : Event) : Action B Unit :=
  modify fun running => { running with events := running.events ++ [event] }

/-- Refuse if the interrupt flag is up. -/
def checkInterrupt : Action B Unit := fun running =>
  if running.session.interrupted then .error (.refused .interrupted) running
  else .ok () running

/-- How much of a script is done, in percent. -/
def percent (done total : Nat) : Nat :=
  done * 100 / total

/-- Run the lines that are left of a script of `total` lines, of which `done`
have been run.  The line with number `n`, counted from zero, runs at the
instant `clock n`, and `raises n` says whether the flag is raised while the
output with number `n`, counted from one, arrives. -/
def runLines (clock : Nat → Instant) (raises : Nat → Bool) (total : Nat) (done : Nat) :
    List String → Action B Unit
  | [] => pure ()
  | line :: lines => do
    checkInterrupt
    let result ← inSession (Session.runLine (clock done) line)
    emit (.output result)
    if raises (done + 1) then inSession (Session.setInterrupted true) else pure ()
    emit (.progress (percent (done + 1) total))
    runLines clock raises total (done + 1) lines

/-- Run a script. -/
def execute (clock : Nat → Instant) (raises : Nat → Bool) (script : String) :
    Action B Response := do
  inSession (Session.setInterrupted false)
  let lines := CommandLine.commands script
  if lines.isEmpty then Step.refuse (.invalidArgument "empty command line")
  else
    runLines clock raises lines.length 0 lines
    return .executed lines.length

/-- Handle a request.  A request that is no script runs at the instant
`clock 0`. -/
def handle (clock : Nat → Instant) (raises : Nat → Bool) : Request → Action B Response
  | .connect => do
    inSession Session.connect
    return .connected
  | .disconnect => do
    inSession Session.disconnect
    return .disconnected
  | .execute script => execute clock raises script
  | .loadContent cursor pattern count =>
    inSession (Session.loadContent (clock 0) cursor pattern count)
  | .clear => do
    inSession Session.flush
    return .cleared
  | .serverInfo => do return .serverInfo (← inSession (Session.serverInfo (clock 0)))
  | .discovery => do
    let server ← inSession (Session.serverInfo (clock 0))
    let database ← inSession (Session.currentInfo (clock 0))
    return .discovery server database
  | .commands => return .commands B.commands.infos
  | .key request => inSession (Session.handleKey (clock 0) request)

end Running

/-- Handle a request from its beginning. -/
def Session.handleRequest (session : Session B) (clock : Nat → Instant) (raises : Nat → Bool)
    (request : Request) : EStateM.Result (Halt Error) (Running B) Response :=
  Running.handle clock raises request ⟨session, []⟩

end KeyConsole
