import KeyConsole.Driver.Worker
import KeyConsole.Registry

/-!
# The shell

The shell connects to one backend, reads lines, runs each as a script and
prints what comes of it.  A prompt is printed before every line is read.  The
arguments say what to connect to; lines end with the input or with `exit`.
-/

namespace KeyConsole.Shell

/-! ## Arguments -/

/-- What the arguments ask for. -/
inductive Invocation where
  /-- Run on a backend with a line of flags. -/
  | run (backend config : String)
  | help
  | version
  /-- An option lacks its value. -/
  | missingValue (option : String)
  | unknown (argument : String)
  deriving DecidableEq, Repr

/-- Read the arguments from left to right; the first that cannot be used, or
that asks for a text, decides. -/
def invocation (backend config : String) : List String → Invocation
  | [] => .run backend config
  | [argument] =>
    if argument = "--backend" ∨ argument = "-b" then .missingValue "--backend"
    else if argument = "--config" ∨ argument = "-c" then .missingValue "--config"
    else if argument = "--help" then .help
    else if argument = "--version" ∨ argument = "-v" then .version
    else .unknown argument
  | argument :: value :: rest =>
    if argument = "--backend" ∨ argument = "-b" then invocation value config rest
    else if argument = "--config" ∨ argument = "-c" then invocation backend value rest
    else if argument = "--help" then .help
    else if argument = "--version" ∨ argument = "-v" then .version
    else .unknown argument

/-- What the arguments ask for when the backend in memory is the default. -/
def ofArguments (arguments : List String) : Invocation :=
  invocation BackendKind.memory.name "" arguments

/-! ## Texts -/

/-- The version of the program. -/
def versionText : String := "kvbridge version 0.1.0\n"

/-- The description of the arguments. -/
def helpText : String := "
kvbridge - One command protocol over many key-value backends

USAGE:
    kvbridge [OPTIONS]

OPTIONS:
    -b, --backend <NAME>     Backend to use: memory, redb (default: memory)
    -c, --config <CONFIG>    Backend config line (see below)
    -v, --version            Print version information
        --help               Print this help message

BACKEND CONFIG:
    -f <path-or-name>    redb file path or memory database name
    -d <delimiter>       Delimiter for composite values (default: \\n)
    -ns <separator>      Namespace separator for keys (default: :)
    -c                   Create the database if it does not exist

EXAMPLES:
    kvbridge
    kvbridge -b redb -c \"-f ~/data.redb -c\"
    echo \"SET a 1\" | kvbridge

LOGGING:
    Set RUST_LOG=debug to see every executed command.

"

/-- The line that tells why the shell ends. -/
def failureLine (text : String) : String :=
  "Error: " ++ text ++ "\n"

/-! ## Conversations -/

/-- A running shell. -/
structure Conversation (B : Backend) where
  worker : Worker B
  prompt : String
  delimiter : String

/-- How it goes on after a line. -/
inductive Next (B : Backend) where
  /-- The next line can be read. -/
  | reading (conversation : Conversation B)
  /-- The input has ended, or was asked to. -/
  | ended (conversation : Conversation B)
  /-- The shell ends for a reason. -/
  | failed (text : String)

/-- What is printed for an event. -/
def eventText (delimiter : String) : JobEvent → String
  | .progress _ => ""
  | .output result => result.text delimiter ++ "\n"
  | .finished (.error cause) => "(error) " ++ cause.message ++ "\n"
  | .finished (.ok _) => ""

variable {B : Backend}

/-- Connect a worker. -/
def connect (clock : Nat → Instant) (session : Session B) : Except Error (Worker B) := do
  let (completion, worker) := (Worker.start session).call clock .connect
  let completion ← completion
  let _ ← completion.result
  return worker

/-- Print the prompt in front of the next line. -/
def prompted (output : String) (conversation : Conversation B) : String × Next B :=
  (output ++ conversation.prompt, .reading conversation)

/-- Take one line.  It is printed what comes of it, then the next prompt. -/
def take (clock : Nat → Instant) (conversation : Conversation B) (line : Bytes) :
    String × Next B :=
  match Text.decode? line with
  | none => ("", .failed "stream did not contain valid UTF-8")
  | some text =>
    let command := Text.trim text
    if Text.sameLetters command "exit" then ("", .ended conversation)
    else if command.isEmpty then prompted "" conversation
    else
      match conversation.worker.submit (.execute command) with
      | .error cause => ("", .failed cause.message)
      | .ok (ticket, worker) =>
        let worker := worker.step clock fun _ => false
        let texts := (worker.inbox ticket).map (eventText conversation.delimiter)
        prompted (String.join texts) { conversation with worker := worker }

/-- Disconnect at the end; the reason if that fails. -/
def leave (clock : Nat → Instant) (conversation : Conversation B) : Option String :=
  let (completion, _) := conversation.worker.call clock .disconnect
  match completion with
  | .error cause => some cause.message
  | .ok completion =>
    match completion.result with
    | .error cause => some cause.message
    | .ok _ => none

/-- The lines of an input; what follows the last line feed is one when it is
not empty. -/
def inputLines (line : Bytes) : Bytes → List Bytes
  | [] => if line.isEmpty then [] else [line]
  | b :: bs => if b = 0x0A then line :: inputLines [] bs else inputLines (line ++ [b]) bs

/-! ## Whole runs -/

/-- What a run leaves behind. -/
structure Outcome where
  code : Nat
  output : String
  errors : String
  deriving DecidableEq, Repr

/-- The outcome when the shell ends for a reason. -/
def failure (output text : String) : Outcome :=
  ⟨1, output, failureLine text⟩

/-- Read lines to their end; `clock n` is the clock of the line with number
`n`. -/
def converse (clock : Nat → Nat → Instant) (done : Nat) (output : String) (next : Next B) :
    List Bytes → Outcome
  | [] =>
    match next with
    | .failed text => failure output text
    | .ended conversation | .reading conversation =>
      match leave (clock done) conversation with
      | some text => failure output text
      | none => ⟨0, output, ""⟩
  | line :: lines =>
    match next with
    | .failed text => failure output text
    | .ended conversation =>
      match leave (clock done) conversation with
      | some text => failure output text
      | none => ⟨0, output, ""⟩
    | .reading conversation =>
      let (printed, next) := take (clock done) conversation line
      converse clock (done + 1) (output ++ printed) next lines

/-- The hosts of both kinds of backends. -/
def hostOf (files : TableFile.Host) : (kind : BackendKind) → kind.backend.Host
  | .memory => ()
  | .tableFile => files

/-- A conversation on what the settings say, before the first prompt. -/
def greet (settings : Settings) (clock : Nat → Instant) (files : TableFile.Host) :
    Except Error (Conversation settings.backend.backend) := do
  let session ← Registry.full.create settings (hostOf files settings.backend)
  let worker ← connect clock session
  return ⟨worker, settings.backend.name ++ "> ", settings.config.delimiter⟩

/-- Run the shell on an input. -/
def run (files : TableFile.Host) (clock : Nat → Nat → Instant) (arguments : List String)
    (input : Bytes) : Outcome :=
  match ofArguments arguments with
  | .help => ⟨0, helpText, ""⟩
  | .version => ⟨0, versionText, ""⟩
  | .missingValue option => failure "" (option ++ " requires a value")
  | .unknown argument => ⟨1, helpText, "Unknown argument: " ++ argument ++ "\n"⟩
  | .run backend config =>
    match Settings.ofNames backend config with
    | .error cause => failure "" cause.message
    | .ok settings =>
      match greet settings (clock 0) files with
      | .error cause => failure "" cause.message
      | .ok conversation =>
        let (printed, next) := prompted "" conversation
        converse clock 1 printed next (inputLines [] input)

end KeyConsole.Shell
