import KeyConsole.Command.Table
import KeyConsole.Session

/-!
# Built-in commands

The commands that every backend has.  Each is described by its `description`
and run by its `run`; the table of a backend lists them in order and adds the
commands that only this backend has.  A command reads its arguments before it
does anything: it breaks down if one of them is missing, is refused if one
cannot be read, and otherwise does what it is asked for.
-/

namespace KeyConsole

/-- The built-in commands. -/
inductive Builtin where
  | set
  | get
  | del
  | rename
  | scan
  | keys
  | countKeys
  | flush
  | createDb
  | removeDb
  | select
  | expire
  | ttl
  | info
  | configGet
  | help
  | quit
  deriving DecidableEq, Repr

namespace Builtin

/-- Every built-in command, in the order of the table. -/
def all : List Builtin :=
  [set, get, del, rename, scan, keys, countKeys, flush, createDb, removeDb, select,
    expire, ttl, info, configGet, help, quit]

/-- The version in which the built-in commands appeared. -/
def since : String := "0.1.0"

/-- A description with a sample. -/
def describe (name params summary : String) (sample : Option String) (minArgs extraArgs : Nat) :
    CommandInfo where
  name := name
  params := params
  summary := summary
  since := some since
  sample := sample
  minArgs := minArgs
  extraArgs := extraArgs

/-- The description of a command. -/
def description : Builtin → CommandInfo
  | set =>
    describe "SET" "<key> <value>" "Set the string value of a key"
      (some "SET greeting hello") 2 0
  | get => describe "GET" "<key>" "Get the value of a key" (some "GET greeting") 1 0
  | del =>
    describe "DEL" "<key> [key ...]" "Delete keys, returns how many existed"
      (some "DEL a b c") 1 CommandInfo.unlimited
  | rename =>
    describe "RENAME" "<key> <newkey>" "Rename a key (not atomic)"
      (some "RENAME old new") 2 0
  | scan =>
    describe "SCAN" "<cursor> [MATCH pattern] [COUNT count]"
      "Incrementally iterate the keys of the current database"
      (some "SCAN 0 MATCH user:* COUNT 100") 1 4
  | keys =>
    describe "KEYS" "<key_start> <key_end> <limit>" "List keys in an inclusive range"
      (some "KEYS a z 100") 3 0
  | countKeys => describe "DBKCOUNT" "" "Number of keys in the current database" none 0 0
  | flush => describe "FLUSHDB" "" "Remove every key of the current database" none 0 0
  | createDb =>
    describe "CREATEDB" "<name>" "Create a database" (some "CREATEDB sessions") 1 0
  | removeDb =>
    describe "REMOVEDB" "<name>" "Remove a database" (some "REMOVEDB sessions") 1 0
  | select =>
    describe "SELECT" "<name>" "Switch to another database" (some "SELECT sessions") 1 0
  | expire =>
    describe "EXPIRE" "<key> <seconds>" "Set a key's time to live in seconds"
      (some "EXPIRE session 3600") 2 0
  | ttl =>
    describe "TTL" "<key>" "Get the time to live of a key in seconds"
      (some "TTL session") 1 0
  | info => describe "INFO" "[section]" "Backend statistics" (some "INFO stats") 0 1
  | configGet =>
    describe "CONFIG GET" "<parameter>" "Read a connection setting"
      (some "CONFIG GET delimiter") 1 0
  | help =>
    describe "HELP" "[command ...]" "List commands or describe one"
      (some "HELP CONFIG GET") 0 CommandInfo.unlimited
  | quit => describe "QUIT" "" "Close the connection" none 0 0

/-! ## Arguments and replies -/

/-- What a scan is asked for. -/
structure ScanOptions where
  pattern : String
  count : Nat
  deriving DecidableEq, Repr

/-- What a scan is asked for when nothing is said. -/
def defaultScan : ScanOptions where
  pattern := "*"
  count := 10

/-- Read the options of a scan, which come in pairs. -/
def scanOptions (options : ScanOptions) : List Bytes → Except Error ScanOptions
  | [] => .ok options
  | [option] => do
    let name ← CommandLine.argumentText "option" option
    .error (.invalidArgument (name ++ " requires a value"))
  | option :: value :: rest => do
    let name ← CommandLine.argumentText "option" option
    if Text.sameLetters name "MATCH" then
      let pattern ← CommandLine.argumentText "pattern" value
      scanOptions { options with pattern := pattern } rest
    else if Text.sameLetters name "COUNT" then
      let count ← CommandLine.argumentWord "count" value
      if count = 0 then .error (.invalidArgument "count must be positive")
      else scanOptions { options with count := count } rest
    else .error (.invalidArgument ("unknown SCAN option '" ++ name ++ "'"))

/-- The reply of a scan: the next cursor and the keys. -/
def scanReply (found : List Key) (next : Nat) : Value :=
  .array [.string (Text.natural next), .array (found.map Key.toValue)]

/-- The lines of a section, with its heading; `inside` says whether the lines
so far end in it. -/
def sectionLines (name : String) (inside : Bool) : List String → List String
  | [] => []
  | line :: rest =>
    let inside := match line.toList with
      | '#' :: heading => Text.sameLetters (String.ofList (Text.trimChars heading)) name
      | _ => inside
    if inside then line :: sectionLines name inside rest else sectionLines name inside rest

/-- The part of a text that belongs to a section. -/
def sectionText (name text : String) : String :=
  String.join ((sectionLines name false (Text.lines text)).map (· ++ "\n"))

/-- The settings that can be read, in order. -/
def settings (config : Config) : List (String × String) :=
  [("db_name", config.dbName), ("delimiter", config.delimiter),
    ("ns_separator", config.nsSeparator),
    ("create_if_missing", if config.createIfMissing then "true" else "false")]

/-- The settings that a parameter asks for: all for a star, else the one with
this name. -/
def selectedSettings (config : Config) (wanted : String) : List (String × String) :=
  (settings config).filter fun (name, _) => wanted == "*" || Text.sameLetters name wanted

/-- The reply with a list of settings: names and values in turn. -/
def settingsReply (chosen : List (String × String)) : Value :=
  .array (chosen.flatMap fun (name, value) => [.string name, .string value])

/-- The reply of a request for help among some descriptions. -/
def helpReply (infos : List CommandInfo) (args : List Bytes) : Except Error Value :=
  if args.isEmpty then .ok (.string (Text.join "\n" (infos.map CommandInfo.usage)))
  else
    match CommandInfo.longestMatch id infos args with
    | some (meant, consumed) =>
      if consumed = args.length then .ok (.string meant.helpText)
      else .error (.unknownCommand (CommandLine.shown args))
    | none => .error (.unknownCommand (CommandLine.shown args))

/-! ## What is asked for -/

/-- What a command is asked for, with its arguments read. -/
inductive Invocation : Builtin → Type where
  | set (item : Item) : Invocation .set
  | get (key : Key) : Invocation .get
  | del (keys : List Key) : Invocation .del
  | rename (key newKey : Key) : Invocation .rename
  | scan (cursor : Nat) (options : ScanOptions) : Invocation .scan
  | keys (first last : Key) (limit : Nat) : Invocation .keys
  | countKeys : Invocation .countKeys
  | flush : Invocation .flush
  | createDb (name : String) : Invocation .createDb
  | removeDb (name : String) : Invocation .removeDb
  | select (name : String) : Invocation .select
  | expire (key : Key) (seconds : Nat) : Invocation .expire
  | ttl (key : Key) : Invocation .ttl
  /-- The name of the section is not read before there is a text to take it from. -/
  | info (section? : Option Bytes) : Invocation .info
  | configGet (wanted : String) : Invocation .configGet
  | help (args : List Bytes) : Invocation .help
  | quit : Invocation .quit

/-- Read the arguments of a command, unless one of them is missing. -/
def invocation? : (builtin : Builtin) → List Bytes → Option (Except Error (Invocation builtin))
  | set, key :: value :: _ => some (.ok (.set ⟨key, Value.ofBytes value⟩))
  | get, key :: _ => some (.ok (.get key))
  | del, args => some (.ok (.del args))
  | rename, key :: newKey :: _ => some (.ok (.rename key newKey))
  | scan, cursor :: options => some do
    let cursor ← CommandLine.argumentWord "cursor" cursor
    let options ← scanOptions defaultScan options
    return .scan cursor options
  | keys, first :: last :: limit :: _ =>
    some ((CommandLine.argumentWord "limit" limit).map (.keys first last))
  | countKeys, _ => some (.ok .countKeys)
  | flush, _ => some (.ok .flush)
  | createDb, name :: _ => some ((CommandLine.argumentText "name" name).map .createDb)
  | removeDb, name :: _ => some ((CommandLine.argumentText "name" name).map .removeDb)
  | select, name :: _ => some ((CommandLine.argumentText "name" name).map .select)
  | expire, key :: seconds :: _ =>
    some ((CommandLine.argumentWord "seconds" seconds).map (.expire key))
  | ttl, key :: _ => some (.ok (.ttl key))
  | info, args => some (.ok (.info args.head?))
  | configGet, wanted :: _ => some ((CommandLine.argumentText "parameter" wanted).map .configGet)
  | help, args => some (.ok (.help args))
  | quit, _ => some (.ok .quit)
  | _, _ => none

/-! ## Handlers -/

variable {B : Backend}

/-- The descriptions of all commands of a backend. -/
def descriptions (B : Backend) : List CommandInfo :=
  all.map description ++ B.extraCommands.map HandleCommand.info

/-- A step of a command on a session. -/
abbrev Act (B : Backend) (α : Type) := Step Error (Exchange (Session B)) α

/-- Run an operation of the session. -/
def inSession {α : Type} (operation : Session.Action B α) : Act B α :=
  Handler.onContext operation

/-- Reply that all went well. -/
def replyOk : Act B Unit :=
  Handler.reply Value.ok

/-- Reply a number. -/
def replyNumber (n : Nat) : Act B Unit :=
  Handler.reply (.integer (Int64.ofNat n))

/-- The steps of a command that has its arguments. -/
def Invocation.steps (now : Instant) : {builtin : Builtin} → Invocation builtin → Act B Unit
  | _, .set item => do
    let _ ← inSession (Session.set now item)
    replyOk
  | _, .get key => do
    let item ← inSession (Session.get now key)
    Handler.reply item.value
  | _, .del wanted => do
    let removed ← inSession (Session.delete now wanted)
    replyNumber removed.length
  | _, .rename key newKey => do
    inSession (Session.rename now key newKey)
    replyOk
  | _, .scan cursor options => do
    let (found, next) ← inSession (Session.scan now cursor options.pattern options.count)
    Handler.reply (scanReply found next)
  | _, .keys first last limit => do
    let found ← inSession (Session.keys now first last limit)
    Handler.reply (.array (found.map Key.toValue))
  | _, .countKeys => do
    let size ← inSession (Session.size now)
    replyNumber size
  | _, .flush => do
    inSession Session.flush
    replyOk
  | _, .createDb name => do
    let _ ← inSession (Session.createDatabase name)
    replyOk
  | _, .removeDb name => do
    let _ ← inSession (Session.removeDatabase name)
    replyOk
  | _, .select name => do
    let _ ← inSession (Session.selectDatabase now name)
    replyOk
  | _, .expire key seconds => do
    let found ← inSession (Session.expire now key seconds)
    replyNumber (if found then 1 else 0)
  | _, .ttl key => do
    let seconds ← inSession (Session.ttl now key)
    Handler.reply (.integer (Int64.ofInt seconds))
  | _, .info section? => do
    let text ← inSession (Session.infoText now)
    match section? with
    | none => Handler.reply (.string text)
    | some name =>
      let name ← Step.ofExcept (CommandLine.argumentText "section" name)
      Handler.reply (.string (sectionText name text))
  | _, .configGet wanted => do
    let chosen := selectedSettings (← MonadState.get).context.config wanted
    if chosen.isEmpty then
      Step.refuse (.invalidArgument ("unknown config parameter '" ++ wanted ++ "'"))
    else Handler.reply (settingsReply chosen)
  | _, .help args => do
    Handler.reply (← Step.ofExcept (helpReply (descriptions B) args))
  | _, .quit => do
    inSession Session.quit
    replyOk

/-- The steps of a command; `missing` stands where an argument would have to be there
that is not. -/
def runOr (missing : Act B Unit) (now : Instant) (args : List Bytes) (builtin : Builtin) :
    Act B Unit :=
  match builtin.invocation? args with
  | none => missing
  | some read => do
    let invocation ← Step.ofExcept read
    invocation.steps now

/-- The steps of a command, which breaks down where an argument is missing. -/
def run (now : Instant) (args : List Bytes) (builtin : Builtin) : Act B Unit :=
  builtin.runOr Step.breakDown now args

/-- A built-in command. -/
def command (builtin : Builtin) : Command (Session B) where
  info := builtin.description
  run now args := builtin.run now args

end Builtin

/-- A command of one backend, run on the handle of a session. -/
def HandleCommand.lift {B : Backend} (command : HandleCommand B.Handle) : Command (Session B) where
  info := command.info
  run now args := do
    let values ← Handler.onContext (Session.onHandle command.info.name (command.run now args))
    modify fun exchange => { exchange with replies := exchange.replies ++ values }

/-- The table of a backend: the built-in commands, then its own. -/
def Backend.commands (B : Backend) : CommandTable (Session B) :=
  Builtin.all.map Builtin.command ++ B.extraCommands.map HandleCommand.lift

end KeyConsole
