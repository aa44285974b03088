import KeyConsole.Command.Info
import KeyConsole.CommandLine
import KeyConsole.Storage.Engine
import KeyConsole.Value.Basic

/-!
# Tables of commands

A command runs on a context and replies values, which are kept even when it
refuses after replying.  A table resolves a call to a command, checks the
number of arguments and runs the command on the tokens behind its name.
-/

namespace KeyConsole

/-- A context together with the values replied so far. -/
structure Exchange (σ : Type) where
  context : σ
  replies : List Value

/-- What a command does at an instant with its arguments. -/
abbrev Handler (σ : Type) :=
  Instant → List Bytes → Step Error (Exchange σ) Unit

namespace Handler

/-- Reply one value. -/
def reply {σ : Type} (value : Value) : Step Error (Exchange σ) Unit :=
  modify fun exchange => { exchange with replies := exchange.replies ++ [value] }

/-- Run a step on the context. -/
def onContext {σ α : Type} (step : Step Error σ α) : Step Error (Exchange σ) α :=
  fun exchange =>
    match step exchange.context with
    | .ok result context => .ok result { exchange with context := context }
    | .error halt context => .error halt { exchange with context := context }

end Handler

/-- A command. -/
structure Command (σ : Type) where
  info : CommandInfo
  run : Handler σ

/-- The commands that can be called, in the order of their registration. -/
abbrev CommandTable (σ : Type) := List (Command σ)

namespace CommandTable

/-- The command that a call means, and how many tokens its name takes up. -/
def find {σ : Type} (table : CommandTable σ) (argv : List Bytes) : Option (Command σ × Nat) :=
  CommandInfo.longestMatch Command.info table argv

/-- The first command with a name. -/
def get {σ : Type} (table : CommandTable σ) (name : String) : Option (Command σ) :=
  table.find? fun command => command.info.hasName name

/-- The descriptions in order. -/
def infos {σ : Type} (table : CommandTable σ) : List CommandInfo :=
  table.map Command.info

/-- Run a call. -/
def execute {σ : Type} (table : CommandTable σ) : Handler σ := fun now argv =>
  match argv with
  | [] => Step.refuse (.invalidArgument "empty command")
  | first :: _ =>
    match find table argv with
    | none => Step.refuse (.unknownCommand (Text.lossy first))
    | some (command, consumed) =>
      let args := argv.drop consumed
      if command.info.accepts args.length then command.run now args
      else
        Step.refuse
          (.wrongArgumentCount command.info.name command.info.params args.length)

end CommandTable

end KeyConsole
