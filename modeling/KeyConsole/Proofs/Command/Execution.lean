import KeyConsole.Proofs.Command.Invocation
import KeyConsole.Proofs.Session.Call
import KeyConsole.Registry
import Mathlib.Logic.ExistsUnique

/-!
# Running a call

A call is refused because it is empty, because it begins with no name, or because
the command that it means does not take as many arguments as it has.  Otherwise this
command runs on what follows its name, once, and nothing is added to what it does.
So a built-in command never runs without an argument that it reads.
-/

namespace KeyConsole

namespace CommandInfo

/-- A command takes a number of arguments between its bounds.  Numbers that are larger
than a word do not occur, so the larger bound counts as if words had no end. -/
theorem accepts_iff {info : CommandInfo} {count : Nat} (fits : count ≤ unlimited) :
    info.accepts count = true
      ↔ info.minArgs ≤ count ∧ count ≤ info.minArgs + info.extraArgs := by
  rw [accepts, maxArgs, Bool.and_eq_true, decide_eq_true_eq, decide_eq_true_eq, Nat.le_min,
    and_iff_left fits]

end CommandInfo

namespace CommandTable

variable {σ : Type} {table : CommandTable σ} {argv : List Bytes}

/-! ## What a call comes to -/

/-- A call comes to an error or to a command with its arguments. -/
inductive Resolves (table : CommandTable σ) :
    List Bytes → Except Error (Command σ × List Bytes) → Prop where
  | empty : Resolves table [] (.error (.invalidArgument "empty command"))
  | unknown (first : Bytes) (rest : List Bytes) (notFound : table.find (first :: rest) = none) :
    Resolves table (first :: rest) (.error (.unknownCommand (Text.lossy first)))
  | miscounted (argv : List Bytes) (command : Command σ) (n : Nat)
    (found : table.find argv = some (command, n))
    (outside : ¬(command.info.minArgs ≤ argv.length - n
      ∧ argv.length - n ≤ command.info.minArgs + command.info.extraArgs)) :
    Resolves table argv
      (.error (.wrongArgumentCount command.info.name command.info.params (argv.length - n)))
  | called (argv : List Bytes) (command : Command σ) (n : Nat)
    (found : table.find argv = some (command, n))
    (enough : command.info.minArgs ≤ argv.length - n)
    (notMore : argv.length - n ≤ command.info.minArgs + command.info.extraArgs) :
    Resolves table argv (.ok (command, argv.drop n))

theorem find_nil (table : CommandTable σ) : table.find [] = none :=
  CommandInfo.longestMatch_nil Command.info table

/-- Every call comes to something. -/
theorem exists_resolves (table : CommandTable σ) (argv : List Bytes) :
    ∃ verdict, Resolves table argv verdict := by
  cases argv with
  | nil => exact ⟨_, .empty⟩
  | cons first rest =>
    cases found : table.find (first :: rest) with
    | none => exact ⟨_, .unknown first rest found⟩
    | some best =>
      obtain ⟨command, n⟩ := best
      by_cases inside : command.info.minArgs ≤ (first :: rest).length - n
          ∧ (first :: rest).length - n ≤ command.info.minArgs + command.info.extraArgs
      · exact ⟨_, .called _ command n found inside.1 inside.2⟩
      · exact ⟨_, .miscounted _ command n found inside⟩

/-- A call is refused with the error that it comes to, and otherwise does what its command
does with the arguments. -/
theorem execute_of_resolves (fits : argv.length ≤ CommandInfo.unlimited)
    {verdict : Except Error (Command σ × List Bytes)} (resolves : Resolves table argv verdict)
    (now : Instant) :
    table.execute now argv
      = match verdict with
        | .error cause => Step.refuse cause
        | .ok (command, args) => command.run now args := by
  have few (n : Nat) : argv.length - n ≤ CommandInfo.unlimited :=
    Nat.le_trans (Nat.sub_le _ _) fits
  cases resolves with
  | empty => rfl
  | unknown first rest notFound => simp only [execute, notFound]
  | miscounted argv command n found outside =>
    rw [← CommandInfo.accepts_iff (few n)] at outside
    cases argv with
    | nil =>
      rw [find_nil] at found
      cases found
    | cons first rest => simp only [execute, found, List.length_drop, if_neg outside]
  | called argv command n found enough notMore =>
    have inside := (CommandInfo.accepts_iff (few n)).2 ⟨enough, notMore⟩
    cases argv with
    | nil =>
      rw [find_nil] at found
      cases found
    | cons first rest => simp only [execute, found, List.length_drop, if_pos inside]

theorem Resolves.unique {verdict other : Except Error (Command σ × List Bytes)}
    (resolves : Resolves table argv verdict) (again : Resolves table argv other) :
    verdict = other := by
  cases resolves with
  | empty =>
    cases again with
    | empty => rfl
    | miscounted _ _ _ found => simp [find_nil] at found
    | called _ _ _ found => simp [find_nil] at found
  | unknown first rest notFound =>
    cases again with
    | unknown => rfl
    | miscounted _ _ _ found => simp [notFound] at found
    | called _ _ _ found => simp [notFound] at found
  | miscounted argv command n found outside =>
    cases again with
    | empty => simp [find_nil] at found
    | unknown _ _ notFound => simp [notFound] at found
    | miscounted _ _ _ foundToo =>
      obtain ⟨rfl, rfl⟩ : command = _ ∧ n = _ := by simpa [found] using foundToo
      rfl
    | called _ _ _ foundToo enough notMore =>
      obtain ⟨rfl, rfl⟩ : command = _ ∧ n = _ := by simpa [found] using foundToo
      exact absurd ⟨enough, notMore⟩ outside
  | called argv command n found enough notMore =>
    cases again with
    | empty => simp [find_nil] at found
    | unknown _ _ notFound => simp [notFound] at found
    | miscounted _ _ _ foundToo outside =>
      obtain ⟨rfl, rfl⟩ : command = _ ∧ n = _ := by simpa [found] using foundToo
      exact absurd ⟨enough, notMore⟩ outside
    | called _ _ _ foundToo =>
      obtain ⟨rfl, rfl⟩ : command = _ ∧ n = _ := by simpa [found] using foundToo
      rfl

/-! ## Counting the runs -/

/-- The commands that have run and their arguments, in order. -/
abbrev Log (σ : Type) := List (Command σ × List Bytes)

/-- What a step comes to, with a log beside the context. -/
def withLog {α : Type} (log : Log σ) :
    EStateM.Result (Halt Error) (Exchange σ) α →
      EStateM.Result (Halt Error) (Exchange (σ × Log σ)) α
  | .ok result exchange => .ok result ⟨(exchange.context, log), exchange.replies⟩
  | .error halt exchange => .error halt ⟨(exchange.context, log), exchange.replies⟩

/-- The command that does the same and writes every run into the log. -/
def logged (command : Command σ) : Command (σ × Log σ) where
  info := command.info
  run now args := fun exchange =>
    withLog (exchange.context.2 ++ [(command, args)])
      (command.run now args ⟨exchange.context.1, exchange.replies⟩)

/-- The runs that a call comes to. -/
def runs : Except Error (Command σ × List Bytes) → Log σ
  | .error _ => []
  | .ok call => [call]

theorem find_logged (table : CommandTable σ) (argv : List Bytes) :
    find (table.map logged) argv = (table.find argv).map (Prod.map logged id) :=
  CommandInfo.longestMatch_map Command.info logged table argv

theorem Resolves.logged {verdict : Except Error (Command σ × List Bytes)}
    (resolves : Resolves table argv verdict) :
    Resolves (table.map CommandTable.logged) argv
      (verdict.map fun call => (CommandTable.logged call.1, call.2)) := by
  cases resolves with
  | empty => exact .empty
  | unknown first rest notFound =>
    refine .unknown first rest ?_
    rw [find_logged, notFound]
    rfl
  | miscounted argv command n found outside =>
    refine .miscounted argv (CommandTable.logged command) n ?_ outside
    rw [find_logged, found]
    rfl
  | called argv command n found enough notMore =>
    refine .called argv (CommandTable.logged command) n ?_ enough notMore
    rw [find_logged, found]
    rfl

/-- With a log, a call does the same and logs what it comes to. -/
theorem execute_logged (fits : argv.length ≤ CommandInfo.unlimited)
    {verdict : Except Error (Command σ × List Bytes)} (resolves : Resolves table argv verdict)
    (now : Instant) (context : σ) (log : Log σ) (replies : List Value) :
    execute (table.map logged) now argv ⟨(context, log), replies⟩
      = withLog (log ++ runs verdict) (table.execute now argv ⟨context, replies⟩) := by
  rw [execute_of_resolves fits resolves, execute_of_resolves fits resolves.logged]
  cases verdict with
  | error cause =>
    rw [runs, List.append_nil]
    rfl
  | ok call => rfl

end CommandTable

/-! ## Arguments that are not there -/

namespace Builtin

variable {B : Backend}

/-- With a number of arguments that it takes, a command reads no argument that is not
there. -/
theorem runOr_eq_run (missing : Act B Unit) (now : Instant) {builtin : Builtin}
    {args : List Bytes} (accepted : builtin.description.accepts args.length = true) :
    builtin.runOr missing now args = builtin.run now args := by
  obtain ⟨read, isRead⟩ := exists_invocation?_of_accepts accepted
  rw [run, runOr, runOr, isRead]

example (missing : Act B Unit) : runOr missing 0 [[0x61]] .rename = missing := rfl

end Builtin

namespace Entry

variable {B : Backend}

/-- The command of an entry, with another end for arguments that are not there. -/
def commandOr (missing : Builtin.Act B Unit) : Entry B → Command (Session B)
  | builtin meant => ⟨meant.description, fun now args => meant.runOr missing now args⟩
  | extra command _ => command.lift

theorem info_commandOr (missing : Builtin.Act B Unit) (entry : Entry B) :
    (entry.commandOr missing).info = entry.command.info := by
  cases entry <;> rfl

theorem run_commandOr (missing : Builtin.Act B Unit) (entry : Entry B) (now : Instant)
    {args : List Bytes} (accepted : entry.command.info.accepts args.length = true) :
    (entry.commandOr missing).run now args = entry.command.run now args := by
  cases entry with
  | builtin meant => exact meant.runOr_eq_run missing now accepted
  | extra command own => rfl

end Entry

namespace Backend

/-- The table of a backend, with another end for arguments that are not there. -/
def commandsOr (B : Backend) (missing : Builtin.Act B Unit) : CommandTable (Session B) :=
  B.entries.map (Entry.commandOr missing)

/-- No call depends on what would be done about an argument that is not there. -/
theorem execute_commandsOr (B : Backend) (missing : Builtin.Act B Unit) (now : Instant)
    (argv : List Bytes) :
    (B.commandsOr missing).execute now argv = B.commands.execute now argv := by
  have found : (B.commandsOr missing).find argv
      = (B.find argv).map (Prod.map (Entry.commandOr missing) id) := by
    rw [CommandTable.find, commandsOr, CommandInfo.longestMatch_map]
    simp only [Entry.info_commandOr]
    rfl
  cases argv with
  | nil => rfl
  | cons first rest =>
    simp only [CommandTable.execute, found, find_commands]
    cases B.find (first :: rest) with
    | none => rfl
    | some best =>
      obtain ⟨entry, n⟩ := best
      simp only [Option.map_some, Prod.map, id, Entry.info_commandOr]
      split
      · next accepted => exact entry.run_commandOr missing now accepted
      · rfl

end Backend

theorem BackendKind.run_extraCommand (kind : BackendKind) {command : HandleCommand _}
    (own : command ∈ kind.backend.extraCommands) (now : Instant) (args : List Bytes) :
    command.run now args = command.run now [] := by
  cases kind with
  | memory =>
    obtain rfl := List.mem_singleton.1 own
    rfl
  | tableFile => cases own

/-- A call, which has no more tokens than a word can count, is refused with the error that
it comes to, without a command run and with nothing changed; or the command that it means
runs once, on what follows its name, and nothing is added to what it does.  No built-in
command depends on what would be done about an argument that is not there, and the
commands that only one backend has read no argument. -/
theorem CommandTable.execute_runs_once :
    (∀ (σ : Type) (table : CommandTable σ) (argv : List Bytes),
      argv.length ≤ CommandInfo.unlimited →
      (∃! verdict, Resolves table argv verdict) ∧
      (∀ cause, Resolves table argv (.error cause) → ∀ now exchange,
        table.execute now argv exchange = .error (.refused cause) exchange) ∧
      (∀ command args, Resolves table argv (.ok (command, args)) → ∀ now exchange,
        table.execute now argv exchange = command.run now args exchange) ∧
      ∀ verdict, Resolves table argv verdict → ∀ now context log replies,
        execute (table.map logged) now argv ⟨(context, log), replies⟩
          = withLog (log ++ runs verdict) (table.execute now argv ⟨context, replies⟩)) ∧
    (∀ (B : Backend) (missing : Builtin.Act B Unit) (now : Instant) (argv : List Bytes),
      (B.commandsOr missing).execute now argv = B.commands.execute now argv) ∧
    ∀ kind : BackendKind, ∀ command ∈ kind.backend.extraCommands, ∀ now args,
      command.run now args = command.run now [] := by
  refine ⟨fun σ table argv fits => ⟨?_, ?_, ?_, ?_⟩, Backend.execute_commandsOr,
    fun kind command own => kind.run_extraCommand own⟩
  · obtain ⟨verdict, resolves⟩ := exists_resolves table argv
    exact ⟨verdict, resolves, fun _ again => again.unique resolves⟩
  · intro cause resolves now exchange
    rw [execute_of_resolves fits resolves]
    rfl
  · intro command args resolves now exchange
    rw [execute_of_resolves fits resolves]
  · intro verdict resolves now context log replies
    exact execute_logged fits resolves now context log replies

/-- A command that replies how many arguments it has, and counts its runs. -/
def CommandTable.tally : Command Nat where
  info :=
    { name := "TALLY", params := "<item> [item]", summary := "", since := none, sample := none,
      minArgs := 1, extraArgs := 1 }
  run := fun _ args exchange =>
    .ok () ⟨exchange.context + 1, exchange.replies ++ [.integer (Int64.ofNat args.length)]⟩

/-- One argument is counted, and none is refused. -/
theorem CommandTable.execute_runs_once_tally :
    execute [tally] 0 [Text.encode "tally", [0xFF]] ⟨0, []⟩ = .ok () ⟨1, [.integer 1]⟩ ∧
    execute [tally] 0 [Text.encode "tally"] ⟨0, []⟩
      = .error (.refused (.wrongArgumentCount "TALLY" "<item> [item]" 0)) ⟨0, []⟩ ∧
    execute [tally] 0 [Text.encode "tell"] ⟨0, []⟩
      = .error (.refused (.unknownCommand (Text.lossy (Text.encode "tell")))) ⟨0, []⟩ := by
  refine ⟨?_, ?_, ?_⟩
  · have called := (execute_runs_once.1 Nat [tally] [Text.encode "tally", [0xFF]]
      (by decide)).2.2.1 tally [[0xFF]]
    exact called (.called _ tally 1 rfl (by decide) (by decide)) 0 ⟨0, []⟩
  · have refused := (execute_runs_once.1 Nat [tally] [Text.encode "tally"] (by decide)).2.1
    exact refused _ (.miscounted _ tally 1 rfl (by decide)) 0 ⟨0, []⟩
  · have refused := (execute_runs_once.1 Nat [tally] [Text.encode "tell"] (by decide)).2.1
    exact refused _ (.unknown _ [] rfl) 0 ⟨0, []⟩

end KeyConsole
