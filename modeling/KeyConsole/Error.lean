import KeyConsole.Text.Numeral

/-!
# Errors

The causes for which an operation refuses, each with the text shown to the
user.  `Halt` adds the one ending that is not an answer: a session that breaks
down.
-/

namespace KeyConsole

/-- Why an operation refuses. -/
inductive Error where
  /-- A call with arguments that make no sense, said in a sentence. -/
  | invalidArgument (text : String)
  /-- The session is not connected. -/
  | notConnected
  /-- The backend could not be opened, with its diagnosis. -/
  | connectionFailed (text : String)
  /-- No command has this name. -/
  | unknownCommand (name : String)
  /-- A command got a number of arguments that it does not accept. -/
  | wrongArgumentCount (command usage : String) (given : Nat)
  /-- The key has no item. -/
  | keyNotFound (key : String)
  /-- The backend has no database of this name. -/
  | databaseNotFound (name : String)
  /-- The backend does not offer the operation. -/
  | notSupported (operation backend : String)
  /-- The interrupt flag was found raised. -/
  | interrupted
  /-- Any other refusal of the backend, with its code and text. -/
  | native (code : Int) (text : String)
  deriving DecidableEq, Repr, Inhabited

namespace Error

/-- The text of an error. -/
def message : Error → String
  | invalidArgument text => "invalid argument: " ++ text
  | notConnected => "not connected"
  | connectionFailed text => "connection error: " ++ text
  | unknownCommand name => "unknown command '" ++ name ++ "'"
  | wrongArgumentCount command usage given =>
    "wrong number of arguments for '" ++ command ++ "' (got " ++ Text.natural given
      ++ "), usage: " ++ command ++ " " ++ usage
  | keyNotFound key => "key not found: " ++ key
  | databaseNotFound name => "database not found: " ++ name
  | notSupported operation backend =>
    operation ++ " is not supported by the " ++ backend ++ " backend"
  | interrupted => "interrupted"
  | native code text => "native error " ++ Text.integer code ++ ": " ++ text

/-- Whether an error reports an interruption. -/
def isInterrupted : Error → Bool
  | interrupted => true
  | _ => false

end Error

/-- How an action ends without a result. -/
inductive Halt (ε : Type) where
  /-- It refuses for a cause, and the session can go on. -/
  | refused (cause : ε)
  /-- It breaks down, and nothing can follow. -/
  | broken
  deriving DecidableEq, Repr

namespace Halt

/-- Change the cause of a refusal. -/
def map {ε δ : Type} (f : ε → δ) : Halt ε → Halt δ
  | refused cause => refused (f cause)
  | broken => broken

end Halt

/-- A step on a state, which keeps the state it has reached when it halts. -/
abbrev Step (ε σ α : Type) := EStateM (Halt ε) σ α

namespace Step

/-- Refuse for a cause. -/
def refuse {ε σ α : Type} (cause : ε) : Step ε σ α :=
  throw (Halt.refused cause)

/-- Break down. -/
def breakDown {ε σ α : Type} : Step ε σ α :=
  throw Halt.broken

/-- The result or the cause, if the step does not break down. -/
def answer? {ε σ α : Type} : EStateM.Result (Halt ε) σ α → Option (Except ε α)
  | .ok value _ => some (.ok value)
  | .error (.refused cause) _ => some (.error cause)
  | .error .broken _ => none

/-- The state that a step has reached. -/
def finalState {ε σ α : Type} : EStateM.Result (Halt ε) σ α → σ
  | .ok _ state => state
  | .error _ state => state

/-- Take the result of a pure check. -/
def ofExcept {ε σ α : Type} : Except ε α → Step ε σ α
  | .ok value => pure value
  | .error cause => refuse cause

/-- Two steps in turn have a result exactly when both have one. -/
theorem bind_eq_ok_iff {ε σ α β : Type} {first : Step ε σ α} {next : α → Step ε σ β}
    {before after : σ} {result : β} :
    (first >>= next) before = .ok result after ↔
      ∃ value between, first before = .ok value between ∧ next value between = .ok result after := by
  change EStateM.bind first next before = _ ↔ _
  unfold EStateM.bind
  cases first before <;> simp [and_assoc]

/-- Two steps in turn halt when the first halts, or the second behind it. -/
theorem bind_eq_error_iff {ε σ α β : Type} {first : Step ε σ α} {next : α → Step ε σ β}
    {before after : σ} {halt : Halt ε} :
    (first >>= next) before = .error halt after ↔
      first before = .error halt after ∨
        ∃ value between, first before = .ok value between ∧
          next value between = .error halt after := by
  change EStateM.bind first next before = _ ↔ _
  unfold EStateM.bind
  cases first before <;> simp [and_assoc]

end Step

end KeyConsole
