import KeyConsole.Driver.Handle
import KeyConsole.Proofs.Session.Operation

/-!
# The operation behind a call

A call resolves to an entry of the table, whose handler checks its arguments,
asks the session for one operation at most and talks about the outcome.  So what
a call or a line does to a session is what one operation does to it, or nothing.
-/

namespace KeyConsole

/-! ## Resolving a call -/

namespace CommandInfo

theorem better_map {α β : Type} (f : α → β) (best : Option (α × Nat)) (candidate : α)
    (length : Option Nat) :
    better (best.map (Prod.map f id)) (f candidate) length
      = (better best candidate length).map (Prod.map f id) := by
  cases length with
  | none => cases best <;> rfl
  | some n =>
    cases best with
    | none => rfl
    | some chosen =>
      simp only [better, Option.map_some, Prod.map, id]
      split <;> rfl

/-- Renaming things does not change which of them is meant. -/
theorem longestMatch_map {α β : Type} (info : β → CommandInfo) (f : α → β) (things : List α)
    (argv : List Bytes) :
    longestMatch info (things.map f) argv
      = (longestMatch (fun thing => info (f thing)) things argv).map (Prod.map f id) := by
  unfold longestMatch
  rw [List.foldl_map]
  suffices general : ∀ best : Option (α × Nat),
      things.foldl (fun best thing => better best (f thing) ((info (f thing)).matchLength argv))
          (best.map (Prod.map f id))
        = (things.foldl (fun best thing => better best thing ((info (f thing)).matchLength argv))
          best).map (Prod.map f id) from general none
  induction things with
  | nil => exact fun _ => rfl
  | cons thing things ih =>
    intro best
    rw [List.foldl_cons, List.foldl_cons, better_map]
    exact ih _

/-- The empty call means nothing. -/
theorem longestMatch_nil {α : Type} (info : α → CommandInfo) (things : List α) :
    longestMatch info things [] = none := by
  unfold longestMatch
  induction things with
  | nil => rfl
  | cons thing things ih => exact ih

end CommandInfo

variable {B : Backend}

/-- An entry of the table of a backend. -/
inductive Entry (B : Backend) where
  | builtin (builtin : Builtin)
  | extra (command : HandleCommand B.Handle) (own : command ∈ B.extraCommands)

namespace Entry

/-- The command of an entry. -/
def command : Entry B → Command (Session B)
  | builtin meant => meant.command
  | extra command _ => command.lift

end Entry

namespace Backend

/-- The entries of the table in order. -/
def entries (B : Backend) : List (Entry B) :=
  Builtin.all.map Entry.builtin
    ++ B.extraCommands.attach.map fun command => Entry.extra command.1 command.2

theorem map_command_entries (B : Backend) : B.entries.map Entry.command = B.commands := by
  have builtins : Entry.command ∘ Entry.builtin = Builtin.command (B := B) := rfl
  have extras : (Entry.command ∘ fun command : { command // command ∈ B.extraCommands } =>
      Entry.extra command.1 command.2) = HandleCommand.lift ∘ Subtype.val := rfl
  rw [entries, List.map_append, List.map_map, List.map_map, builtins, extras,
    ← List.map_map, List.attach_map_subtype_val, commands]

/-- The entry that a call means, and how many tokens its name takes up. -/
def find (B : Backend) (argv : List Bytes) : Option (Entry B × Nat) :=
  CommandInfo.longestMatch (fun entry : Entry B => entry.command.info) B.entries argv

theorem find_commands (B : Backend) (argv : List Bytes) :
    CommandTable.find B.commands argv
      = (B.find argv).map (Prod.map Entry.command id) := by
  rw [CommandTable.find, ← map_command_entries, CommandInfo.longestMatch_map, find]

theorem find_nil (B : Backend) : B.find [] = none :=
  CommandInfo.longestMatch_nil _ B.entries

end Backend

/-! ## The operation that is meant -/

/-- The operation that a built-in command asks the session for when it has read its
arguments. -/
def Builtin.Invocation.operation? : {builtin : Builtin} → Invocation builtin → Option (Operation B)
  | _, .set item => some (.set item)
  | _, .get key => some (.get key)
  | _, .del wanted => some (.delete wanted)
  | _, .rename key newKey => some (.rename key newKey)
  | _, .scan cursor options => some (.scan cursor options.pattern options.count)
  | _, .keys first last limit => some (.keys first last limit)
  | _, .countKeys => some .size
  | _, .flush => some .flush
  | _, .createDb name => some (.createDatabase name)
  | _, .removeDb name => some (.removeDatabase name)
  | _, .select name => some (.selectDatabase name)
  | _, .expire key seconds => some (.expire key seconds)
  | _, .ttl key => some (.ttl key)
  | _, .info _ => some .infoText
  | _, .configGet _ | _, .help _ => none
  | _, .quit => some .quit

/-- The operation that a built-in command asks the session for with its
arguments. -/
def Builtin.operation? (builtin : Builtin) (args : List Bytes) : Option (Operation B) :=
  match builtin.invocation? args with
  | some (.ok invocation) => invocation.operation?
  | _ => none

/-- What a command asks for is the operation of what it has read. -/
theorem Builtin.exists_of_operation? {builtin : Builtin} {args : List Bytes}
    {operation : Operation B} (meant : builtin.operation? args = some operation) :
    ∃ invocation : builtin.Invocation, invocation.operation? = some operation := by
  unfold Builtin.operation? at meant
  split at meant
  · exact ⟨_, meant⟩
  · cases meant

/-- The operation that an entry asks the session for. -/
def Entry.operation? : Entry B → List Bytes → Option (Operation B)
  | builtin meant, args => meant.operation? args
  | extra command own, args => some (.native (.extra command own args))

/-- The operation that a call asks the session for. -/
def Backend.callOperation? (B : Backend) (argv : List Bytes) : Option (Operation B) :=
  match B.find argv with
  | none => none
  | some (entry, consumed) =>
    if entry.command.info.accepts (argv.drop consumed).length then
      entry.operation? (argv.drop consumed)
    else none

/-- The operation that a line asks the session for. -/
def Backend.lineOperation? (B : Backend) (line : String) : Option (Operation B) :=
  match CommandLine.tokens line with
  | .ok argv => B.callOperation? argv
  | .error _ => none

/-- What a call of a built-in command asks for is the operation of what the command has
read. -/
theorem Backend.exists_of_find {argv : List Bytes} {builtin : Builtin} {consumed : Nat}
    {operation : Operation B} (found : B.find argv = some (Entry.builtin builtin, consumed))
    (meant : B.callOperation? argv = some operation) :
    ∃ invocation : builtin.Invocation, invocation.operation? = some operation := by
  rw [callOperation?, found] at meant
  dsimp only at meant
  split at meant
  · exact Builtin.exists_of_operation? meant
  · cases meant

/-- What a call asks for is the operation of a built-in command or a command of the backend. -/
theorem Backend.exists_of_callOperation? {argv : List Bytes} {operation : Operation B}
    (meant : B.callOperation? argv = some operation) :
    (∃ (builtin : Builtin) (invocation : builtin.Invocation),
      invocation.operation? = some operation) ∨
      ∃ command own args, operation = .native (.extra command own args) := by
  cases found : B.find argv with
  | none =>
    rw [callOperation?, found] at meant
    cases meant
  | some best =>
    obtain ⟨entry, consumed⟩ := best
    cases entry with
    | builtin builtin => exact Or.inl ⟨builtin, exists_of_find found meant⟩
    | extra command own =>
      rw [callOperation?, found] at meant
      dsimp only at meant
      split at meant
      · exact Or.inr ⟨command, own, _, (Option.some.inj meant).symm⟩
      · cases meant

theorem Backend.exists_call_of_lineOperation? {line : String} {operation : Operation B}
    (meant : B.lineOperation? line = some operation) :
    ∃ argv, B.callOperation? argv = some operation := by
  unfold Backend.lineOperation? at meant
  split at meant
  · exact ⟨_, meant⟩
  · cases meant

/-- The session after an operation, if there is one. -/
def Operation.afterAny (now : Instant) (operation : Option (Operation B)) (session : Session B) :
    Session B :=
  operation.elim session fun operation => operation.after now session

/-! ## What handlers do to the session -/

namespace Handler

variable {σ α β : Type}

/-- A step of a handler changes the context in one way, whatever it replies. -/
def Changes (change : σ → σ) (step : Step Error (Exchange σ) α) : Prop :=
  ∀ exchange, (Step.finalState (step exchange)).context = change exchange.context

theorem changes_reply (value : Value) : Changes (σ := σ) id (reply value) :=
  fun _ => rfl

theorem changes_refuse (cause : Error) :
    Changes id (Step.refuse cause : Step Error (Exchange σ) α) :=
  fun _ => rfl

theorem changes_breakDown : Changes id (Step.breakDown : Step Error (Exchange σ) α) :=
  fun _ => rfl

theorem changes_get_bind {next : Exchange σ → Step Error (Exchange σ) β}
    (talks : ∀ exchange, Changes id (next exchange)) :
    Changes id (MonadState.get >>= next) :=
  fun exchange => talks exchange exchange

/-- Talking about what a step on the context came to does not change the context
any further. -/
theorem changes_onContext_bind (operation : Step Error σ α)
    {next : α → Step Error (Exchange σ) β} (talks : ∀ result, Changes id (next result)) :
    Changes (fun context => Step.finalState (operation context)) (onContext operation >>= next) := by
  intro exchange
  simp only [Step.finalState_bind, onContext]
  cases operation exchange.context with
  | ok result context => exact talks result _
  | error halt context => rfl

end Handler

namespace Step

variable {ε σ α β : Type}

theorem ofExcept_ok_bind (result : α) (next : α → Step ε σ β) :
    (ofExcept (.ok result) >>= next) = next result :=
  rfl

end Step

namespace Builtin

open Handler

/-- A command that has its arguments does to the session what its operation does. -/
theorem Invocation.changes_steps {builtin : Builtin} (invocation : Invocation builtin)
    (now : Instant) :
    Changes (Operation.afterAny (B := B) now invocation.operation?) (invocation.steps now) := by
  cases invocation with
  | info section? =>
    apply changes_onContext_bind _
    intro text
    cases section? with
    | none => exact changes_reply _
    | some name =>
      dsimp only
      cases CommandLine.argumentText "section" name with
      | error cause => exact changes_refuse cause
      | ok name => exact changes_reply _
  | configGet wanted =>
    apply changes_get_bind
    intro exchange
    dsimp only
    split
    · exact changes_refuse _
    · exact changes_reply _
  | help args =>
    simp only [steps]
    cases helpReply (descriptions B) args with
    | error cause => exact changes_refuse cause
    | ok value => exact changes_reply value
  | _ => exact changes_onContext_bind _ fun _ => changes_reply _

/-- A built-in command does to the session what its operation does. -/
theorem changes_run (builtin : Builtin) (now : Instant) (args : List Bytes) :
    Changes (Operation.afterAny (B := B) now (builtin.operation? args))
      (builtin.run now args) := by
  unfold run runOr operation?
  cases builtin.invocation? args with
  | none => exact changes_breakDown
  | some read =>
    cases read with
    | error cause => exact changes_refuse cause
    | ok invocation => exact invocation.changes_steps now

end Builtin

/-- An action on the handle changes the handle, if there is one. -/
theorem Session.finalState_onHandle_eq_map {α : Type} (command : String)
    (act : HandleAction B.Handle α) (session : Session B) :
    Step.finalState (Session.onHandle command act session)
      = { session with
          handle := session.handle.map fun handle => Step.finalState (act handle) } := by
  cases connected : session.handle with
  | none =>
    rw [Session.onHandle_of_disconnected command act connected, Option.map_none, ← connected]
    rfl
  | some handle => exact Session.finalState_onHandle command act connected

namespace Entry

open Handler

/-- An entry does to the session what its operation does. -/
theorem changes_run (entry : Entry B) (now : Instant) (args : List Bytes) :
    Changes (Operation.afterAny now (entry.operation? args)) (entry.command.run now args) := by
  cases entry with
  | builtin meant => exact meant.changes_run now args
  | extra command own =>
    have talks (values : List Value) : Changes id (modify fun exchange : Exchange (Session B) =>
        { exchange with replies := exchange.replies ++ values } : Builtin.Act B Unit) :=
      fun _ => rfl
    have changes := changes_onContext_bind
      (Session.onHandle command.info.name (command.run now args)) talks
    simp only [Session.finalState_onHandle_eq_map] at changes
    exact changes

end Entry

/-! ## Calls and lines -/

namespace Session

/-- A call does to a session what its operation does, and nothing if it has
none. -/
theorem finalState_runCall (now : Instant) (line : String) (argv : List Bytes)
    (session : Session B) :
    Step.finalState (runCall now line argv session)
      = Operation.afterAny now (B.callOperation? argv) session := by
  have executed : Handler.Changes (Operation.afterAny now (B.callOperation? argv))
      (B.commands.execute now argv) := by
    cases argv with
    | nil =>
      rw [Backend.callOperation?, Backend.find_nil]
      exact Handler.changes_refuse _
    | cons first rest =>
      simp only [CommandTable.execute, Backend.find_commands, Backend.callOperation?]
      cases B.find (first :: rest) with
      | none => exact Handler.changes_refuse _
      | some found =>
        rcases found with ⟨entry, consumed⟩
        simp only [Option.map_some, Prod.map, id]
        split
        · exact entry.changes_run now _
        · exact Handler.changes_refuse _
  have reached := executed ⟨session, []⟩
  unfold runCall
  cases ran : B.commands.execute now argv ⟨session, []⟩ with
  | ok _ exchange =>
    rw [ran] at reached
    exact reached
  | error halt exchange =>
    rw [ran] at reached
    exact reached

/-- A line does to a session what its operation does, and nothing if it has
none. -/
theorem finalState_runLine (now : Instant) (line : String) (session : Session B) :
    Step.finalState (runLine now line session)
      = Operation.afterAny now (B.lineOperation? line) session := by
  unfold runLine Backend.lineOperation?
  cases CommandLine.tokens line with
  | error cause => rfl
  | ok argv => exact finalState_runCall now line argv session

end Session

end KeyConsole
