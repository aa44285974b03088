import KeyConsole.Shell

/-!
# The program

Arguments and lines come from the outside and texts go there; everything else
is done by the shell.  Files of databases live as long as the program.
-/

namespace KeyConsole.Program

/-- The tree of files that the program starts with: the home directory, and no
files. -/
def initialFiles : IO TableFile.Host := do
  let home ← IO.getEnv "HOME"
  let location := (Text.pieces "/" (home.getD "")).foldl FileTree.follow []
  return { home := home, tree := FileTree.ofDirectories [] [location] }

/-- Read the clock for a request; all its lines see this instant. -/
def readClock : IO (Nat → Instant) := do
  let now ← IO.monoNanosNow
  return fun _ => now

/-- Print a text at once. -/
def printNow (text : String) : IO Unit := do
  let output ← IO.getStdout
  output.putStr text
  output.flush

/-- Tell why the program ends. -/
def failWith (text : String) : IO UInt32 := do
  (← IO.getStderr).putStr (Shell.failureLine text)
  return 1

/-- Disconnect at the end. -/
def disconnectFrom {B : Backend} (clock : Nat → Instant) (conversation : Shell.Conversation B) :
    IO UInt32 :=
  match Shell.leave clock conversation with
  | some text => failWith text
  | none => return 0

/-- Read a line with its end, as bytes; the empty one when there is no more. -/
partial def readLine (line : ByteArray) : IO ByteArray := do
  let next ← (← IO.getStdin).read 1
  if next.isEmpty || next == ⟨#[0x0A]⟩ then return line ++ next
  else readLine (line ++ next)

/-- Read lines until the shell ends. -/
partial def converseWith {B : Backend} (conversation : Shell.Conversation B) : IO UInt32 := do
  let line ← readLine ByteArray.empty
  let clock ← readClock
  if line.isEmpty then disconnectFrom clock conversation
  else
    let (printed, next) := Shell.take clock conversation line.data.toList
    printNow printed
    match next with
    | .reading conversation => converseWith conversation
    | .ended conversation => disconnectFrom clock conversation
    | .failed text => failWith text

/-- Run the shell on a backend. -/
def runShell (backend config : String) : IO UInt32 := do
  match Settings.ofNames backend config with
  | .error cause => failWith cause.message
  | .ok settings =>
    match Shell.greet settings (← readClock) (← initialFiles) with
    | .error cause => failWith cause.message
    | .ok conversation =>
      printNow conversation.prompt
      converseWith conversation

/-- Do what the arguments ask for. -/
def start (arguments : List String) : IO UInt32 := do
  match Shell.ofArguments arguments with
  | .help =>
    printNow Shell.helpText
    return 0
  | .version =>
    printNow Shell.versionText
    return 0
  | .missingValue option => failWith (option ++ " requires a value")
  | .unknown argument =>
    (← IO.getStderr).putStr ("Unknown argument: " ++ argument ++ "\n")
    printNow Shell.helpText
    return 1
  | .run backend config => runShell backend config

end KeyConsole.Program

/-- The program. -/
def main (arguments : List String) : IO UInt32 :=
  KeyConsole.Program.start arguments
