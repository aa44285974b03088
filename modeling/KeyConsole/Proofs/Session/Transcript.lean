import Mathlib.Data.List.Forall2
import KeyConsole.Proofs.Command.Invocation
import KeyConsole.Proofs.Session.Matching
import KeyConsole.Proofs.Session.Run

/-!
# Transcripts

What a session answers to one line after the other.  On backends whose primitive
actions end alike, every line that calls a command which both have in common is
answered alike, and so is every sequence of such lines.
-/

namespace KeyConsole

variable {B C : Backend} {handles : B.Handle → C.Handle → Prop} {α β : Type}

/-! ## Commands -/

/-- Two exchanges are on alike sessions, and the same has been replied. -/
def Exchange.Alike (handles : B.Handle → C.Handle → Prop) (exchange : Exchange (Session B))
    (other : Exchange (Session C)) : Prop :=
  exchange.context.Alike handles other.context ∧ exchange.replies = other.replies

/-- Two steps of handlers end alike. -/
abbrev HandleAlike (handles : B.Handle → C.Handle → Prop) (results : α → β → Prop)
    (first : Builtin.Act B α) (second : Builtin.Act C β) : Prop :=
  Step.Matches (Exchange.Alike handles) Error.Alike results first second

theorem matches_inSession {results : α → β → Prop} {first : Session.Action B α}
    {second : Session.Action C β} (alike : Session.OperateAlike handles results first second) :
    HandleAlike handles results (Builtin.inSession first) (Builtin.inSession second) := by
  intro exchange other ⟨sessions, replies⟩
  unfold Builtin.inSession Handler.onContext
  have ended := alike exchange.context other.context sessions
  generalize first exchange.context = left at ended ⊢
  generalize second other.context = right at ended ⊢
  cases ended with
  | ok related reached => exact .ok related ⟨reached, replies⟩
  | refused alike reached => exact .refused alike ⟨reached, replies⟩

theorem matches_reply (value : Value) :
    HandleAlike (B := B) (C := C) handles Eq (Handler.reply value) (Handler.reply value) :=
  fun _ _ alike => .ok rfl ⟨alike.1, congrArg (· ++ [value]) alike.2⟩

namespace Builtin

/-- The commands that do not depend on what only one backend can do or report. -/
def IsShared : Builtin → Prop
  | expire | ttl | info | configGet | help => False
  | _ => True

/-- A command is not given the empty name for the name of a database. -/
def Names (args : List Bytes) : Builtin → Prop
  | removeDb | select => args ≠ [[]]
  | _ => True

theorem ne_nil_of_single {argument : Bytes} {rest : List Bytes}
    (named : argument :: rest ≠ [[]]) {info : CommandInfo} (single : info.minArgs + info.extraArgs = 1)
    (accepted : info.accepts (argument :: rest).length = true) : argument ≠ [] := by
  rintro rfl
  have few : (([] : Bytes) :: rest).length ≤ 1 := by
    have bounds := accepted
    simp only [CommandInfo.accepts, Bool.and_eq_true, decide_eq_true_eq] at bounds
    exact Nat.le_trans bounds.2 (Nat.le_trans (Nat.min_le_left _ _) (Nat.le_of_eq single))
  cases rest with
  | nil => exact named rfl
  | cons second rest => simp at few

/-- A text that is read from an argument which is not empty is not empty. -/
theorem ne_empty_of_argumentText {name text : String} {argument : Bytes} (nonempty : argument ≠ [])
    (read : CommandLine.argumentText name argument = .ok text) : text ≠ "" := by
  rintro rfl
  unfold CommandLine.argumentText at read
  cases decoded : Text.decode? argument with
  | none =>
    rw [decoded] at read
    cases read
  | some text =>
    rw [decoded] at read
    cases read
    exact nonempty ((Text.encode_of_decode? decoded).symm.trans rfl)

/-- What a command has read is no empty name for the name of a database. -/
def Invocation.IsNamed : {builtin : Builtin} → Invocation builtin → Prop
  | _, .removeDb name | _, .select name => name ≠ ""
  | _, _ => True

theorem isNamed_of_invocation? {builtin : Builtin} {args : List Bytes} (named : builtin.Names args)
    (accepted : builtin.description.accepts args.length = true) {invocation : Invocation builtin}
    (read : builtin.invocation? args = some (.ok invocation)) : invocation.IsNamed := by
  cases invocation with
  | removeDb name | select name =>
    rcases args with _ | ⟨argument, rest⟩
    · cases read
    · apply ne_empty_of_argumentText (ne_nil_of_single named rfl accepted)
      rw [invocation?, Option.some.injEq] at read
      cases decoded : CommandLine.argumentText "name" argument with
      | error cause =>
        rw [decoded] at read
        cases read
      | ok text =>
        rw [decoded] at read
        cases read
        rfl
  | _ => trivial

/-- A shared command that has its arguments ends alike. -/
theorem Invocation.matches_steps (matching : B.Matching C handles) (now later : Instant)
    {builtin : Builtin} (shared : builtin.IsShared) {invocation : Invocation builtin}
    (named : invocation.IsNamed) :
    HandleAlike handles Eq (invocation.steps (B := B) now) (invocation.steps (B := C) later) := by
  cases invocation with
  | set item =>
    exact (matches_inSession (Session.matches_set now later matching item)).bind
      fun _ _ _ => matches_reply _
  | get key =>
    apply (matches_inSession (Session.matches_get now later matching key)).bind
    rintro item _ rfl
    exact matches_reply _
  | del wanted =>
    apply (matches_inSession (Session.matches_delete now later matching wanted)).bind
    rintro removed _ rfl
    exact matches_reply _
  | rename key newKey =>
    exact (matches_inSession (Session.matches_rename now later matching key newKey)).bind
      fun _ _ _ => matches_reply _
  | scan cursor options =>
    apply (matches_inSession (Session.matches_scan now later matching _ _ _)).bind
    rintro page _ rfl
    exact matches_reply _
  | keys first last limit =>
    apply (matches_inSession (Session.matches_keys now later matching _ _ _)).bind
    rintro found _ rfl
    exact matches_reply _
  | countKeys =>
    apply (matches_inSession (Session.matches_size now later matching)).bind
    rintro size _ rfl
    exact matches_reply _
  | flush =>
    exact (matches_inSession (Session.matches_flush matching)).bind fun _ _ _ => matches_reply _
  | createDb name =>
    have described := Session.matches_describe "CREATEDB" (Session.emptyInfo · name)
      (matching.createDatabase name)
    exact (matches_inSession described).bind fun _ _ _ => matches_reply _
  | removeDb name =>
    have described := Session.matches_describe "REMOVEDB" (Session.emptyInfo · name)
      (matching.removeDatabase name named)
    exact (matches_inSession described).bind fun _ _ _ => matches_reply _
  | select name =>
    have selected := Session.matches_selectDatabase now later matching named
    exact (matches_inSession selected).bind fun _ _ _ => matches_reply _
  | quit =>
    exact (matches_inSession (Session.matches_quit matching)).bind fun _ _ _ => matches_reply _
  | expire | ttl | info | configGet | help => cases shared

/-- A shared command that is called with a number of arguments that it takes, and with
names that are not empty, ends alike. -/
theorem matches_run (matching : B.Matching C handles) (now later : Instant)
    {builtin : Builtin} {args : List Bytes} (shared : builtin.IsShared)
    (named : builtin.Names args) (accepted : builtin.description.accepts args.length = true) :
    HandleAlike handles Eq (builtin.run (B := B) now args)
      (builtin.run (B := C) later args) := by
  obtain ⟨read, isRead⟩ := exists_invocation?_of_accepts accepted
  rw [run, run, runOr, runOr, isRead]
  cases read with
  | error cause => exact Step.matches_refuse (Error.Alike.refl cause)
  | ok invocation =>
    exact Invocation.matches_steps matching now later shared
      (isNamed_of_invocation? named accepted isRead)

end Builtin

/-! ## Lines -/

namespace Builtin

/-- The built-in command that a call means, and how many tokens its name takes up. -/
def find (argv : List Bytes) : Option (Builtin × Nat) :=
  CommandInfo.longestMatch description all argv

end Builtin

/-- Trying more things leaves the best match so far, or makes one of them the best. -/
theorem CommandInfo.foldl_better_eq {α : Type} (info : α → CommandInfo) (argv : List Bytes)
    (things : List α) (best : Option (α × Nat)) :
    things.foldl (fun best thing => better best thing ((info thing).matchLength argv)) best = best ∨
      ∃ thing ∈ things, ∃ consumed,
        things.foldl (fun best thing => better best thing ((info thing).matchLength argv)) best
          = some (thing, consumed) := by
  induction things generalizing best with
  | nil => exact Or.inl rfl
  | cons thing things ih =>
    have step : better best thing ((info thing).matchLength argv) = best ∨
        ∃ consumed, better best thing ((info thing).matchLength argv) = some (thing, consumed) := by
      unfold better
      split
      · exact Or.inl rfl
      · exact Or.inr ⟨_, rfl⟩
      · split
        · exact Or.inl rfl
        · exact Or.inr ⟨_, rfl⟩
    rw [List.foldl_cons]
    rcases ih (better best thing _) with same | ⟨other, mem, consumed, found⟩
    · rw [same]
      exact step.imp_right fun ⟨consumed, found⟩ => ⟨thing, List.mem_cons_self, consumed, found⟩
    · exact Or.inr ⟨other, List.mem_cons_of_mem _ mem, consumed, found⟩

namespace Backend

/-- The commands of one backend only are tried after the built-in ones. -/
theorem find_eq_foldl (B : Backend) (argv : List Bytes) :
    B.find argv
      = (B.extraCommands.attach.map fun command => Entry.extra command.1 command.2).foldl
          (fun best entry => CommandInfo.better best entry (entry.command.info.matchLength argv))
          ((Builtin.find argv).map (Prod.map Entry.builtin id)) := by
  have builtins : CommandInfo.longestMatch (fun entry : Entry B => entry.command.info)
      (Builtin.all.map Entry.builtin) argv
        = (Builtin.find argv).map (Prod.map Entry.builtin id) :=
    CommandInfo.longestMatch_map _ _ _ _
  rw [find, entries, CommandInfo.longestMatch, List.foldl_append, ← builtins]
  rfl

/-- A command of one backend only can take the place of a built-in one, but does not lead
to another built-in one. -/
theorem find_eq_or_extra (B : Backend) (argv : List Bytes) :
    B.find argv = (Builtin.find argv).map (Prod.map Entry.builtin id) ∨
      ∃ command own consumed, B.find argv = some (Entry.extra command own, consumed) := by
  rw [find_eq_foldl]
  obtain same | ⟨entry, mem, consumed, found⟩ := CommandInfo.foldl_better_eq
    (fun entry : Entry B => entry.command.info) argv
    (B.extraCommands.attach.map fun command : { command // command ∈ B.extraCommands } =>
      Entry.extra command.1 command.2) ((Builtin.find argv).map (Prod.map Entry.builtin id))
  · exact Or.inl same
  · obtain ⟨command, _, rfl⟩ := List.mem_map.1 mem
    exact Or.inr ⟨_, _, _, found⟩

/-- A line calls no command that is only this backend's, nor a built-in one that depends
on the backend, nor one with the empty name for that of a database. -/
def IsSharedLine (B : Backend) (line : String) : Prop :=
  ∀ argv, CommandLine.tokens line = .ok argv →
    ∀ entry consumed, B.find argv = some (entry, consumed) →
      ∃ builtin, entry = Entry.builtin builtin ∧ builtin.IsShared ∧
        builtin.Names (argv.drop consumed)

theorem isSharedLine_of_find {line : String} (argv : List Bytes) (builtin : Builtin)
    (consumed : Nat) (tokens : CommandLine.tokens line = .ok argv)
    (found : B.find argv = some (Entry.builtin builtin, consumed)) (shared : builtin.IsShared)
    (named : builtin.Names (argv.drop consumed)) : B.IsSharedLine line := by
  intro other tokensToo entry consumedToo foundToo
  cases tokens.symm.trans tokensToo
  cases found.symm.trans foundToo
  exact ⟨builtin, rfl, shared, named⟩

theorem find_of_isSharedLine {line : String} (shared : B.IsSharedLine line) {argv : List Bytes}
    (tokens : CommandLine.tokens line = .ok argv) :
    B.find argv = (Builtin.find argv).map (Prod.map Entry.builtin id) := by
  rcases B.find_eq_or_extra argv with found | ⟨command, own, consumed, found⟩
  · exact found
  · obtain ⟨builtin, isBuiltin, _⟩ := shared argv tokens _ _ found
    cases isBuiltin

end Backend

/-- A call of a shared command ends alike, whatever is wrong with it. -/
theorem matches_execute (matching : B.Matching C handles) (now later : Instant)
    {argv : List Bytes}
    (found : B.find argv = (Builtin.find argv).map (Prod.map Entry.builtin id))
    (foundToo : C.find argv = (Builtin.find argv).map (Prod.map Entry.builtin id))
    (shared : ∀ builtin consumed, Builtin.find argv = some (builtin, consumed) →
      builtin.IsShared ∧ builtin.Names (argv.drop consumed)) :
    HandleAlike handles Eq (B.commands.execute now argv) (C.commands.execute later argv) := by
  cases argv with
  | nil => exact Step.matches_refuse rfl
  | cons first rest =>
    unfold CommandTable.execute
    simp only [Backend.find_commands, found, foundToo]
    cases meant : Builtin.find (first :: rest) with
    | none => exact Step.matches_refuse rfl
    | some best =>
      rcases best with ⟨builtin, consumed⟩
      obtain ⟨isShared, named⟩ := shared builtin consumed meant
      dsimp only [Option.map_some, Prod.map, id, Entry.command, Builtin.command]
      split
      · next accepted => exact Builtin.matches_run matching now later isShared named accepted
      · exact Step.matches_refuse rfl

namespace Session

/-- A shared line ends alike. -/
theorem matches_runLine (matching : B.Matching C handles) (now later : Instant) {line : String}
    (shared : B.IsSharedLine line) (sharedToo : C.IsSharedLine line) :
    OperateAlike handles Eq (runLine (B := B) now line) (runLine (B := C) later line) := by
  unfold runLine
  cases tokens : CommandLine.tokens line with
  | error cause => exact Step.matches_refuse (Error.Alike.refl cause)
  | ok argv =>
    rw [Step.ofExcept_ok_bind, Step.ofExcept_ok_bind]
    have found := Backend.find_of_isSharedLine shared tokens
    have foundToo := Backend.find_of_isSharedLine sharedToo tokens
    have executed := matches_execute matching now later found foundToo
      fun builtin consumed meant => by
        rw [meant] at found
        obtain ⟨_, isBuiltin, isShared, named⟩ := shared argv tokens _ _ found
        cases isBuiltin
        exact ⟨isShared, named⟩
    intro session other alike
    have ended := executed ⟨session, []⟩ ⟨other, []⟩ ⟨alike, rfl⟩
    unfold runCall
    generalize B.commands.execute now argv ⟨session, []⟩ = left at ended ⊢
    generalize C.commands.execute later argv ⟨other, []⟩ = right at ended ⊢
    cases ended with
    | ok _ reached => exact .ok (congrArg (CommandResult.mk line) reached.2) reached.1
    | refused alike reached => exact .refused alike reached.1

/-! ## Sequences of lines -/

/-- What is seen of a session when it has run a line. -/
structure Report where
  /-- What the line was answered, if the session has not broken down. -/
  answer : Option (Except Error CommandResult)
  connected : Bool
  /-- The current database of a connected session. -/
  database : Option String

/-- Two reports are the same, up to what an error says in the words of a backend. -/
structure Report.Alike (report other : Report) : Prop where
  answer : (∃ result, report.answer = some (.ok result) ∧ other.answer = some (.ok result)) ∨
    ∃ cause causeToo, report.answer = some (.error cause) ∧
      other.answer = some (.error causeToo) ∧ cause.Alike causeToo
  connected : report.connected = other.connected
  database : report.database = other.database

/-- The report on a line, and the session after it. -/
def report (now : Instant) (line : String) (session : Session B) : Report × Session B :=
  let outcome := runLine now line session
  let after := Step.finalState outcome
  (⟨Step.answer? outcome, after.isConnected, after.database?⟩, after)

/-- The reports on lines that are run one after the other, the line with number `n` at the
instant `clock n`. -/
def transcript (clock : Nat → Instant) (session : Session B) : List String → List Report
  | [] => []
  | line :: lines =>
    let (report, after) := session.report (clock 0) line
    report :: transcript (fun n => clock (n + 1)) after lines

theorem Alike.isConnected_eq {session : Session B} {other : Session C}
    (alike : session.Alike handles other) : session.isConnected = other.isConnected := by
  unfold Alike at alike
  unfold isConnected
  generalize session.handle = handle at alike ⊢
  generalize other.handle = handleToo at alike ⊢
  cases alike <;> rfl

theorem Alike.database?_eq (matching : B.Matching C handles) {session : Session B}
    {other : Session C} (alike : session.Alike handles other) :
    session.database? = other.database? := by
  unfold Alike at alike
  unfold database?
  generalize session.handle = handle at alike ⊢
  generalize other.handle = handleToo at alike ⊢
  cases alike with
  | none => rfl
  | some related => exact congrArg some (matching.currentDatabase _ _ related)

theorem Alike.report (matching : B.Matching C handles) {session : Session B}
    {other : Session C} (alike : session.Alike handles other) (now later : Instant)
    {line : String} (shared : B.IsSharedLine line) (sharedToo : C.IsSharedLine line) :
    (session.report now line).1.Alike (other.report later line).1 ∧
      (session.report now line).2.Alike handles (other.report later line).2 := by
  have ended := matches_runLine matching now later shared sharedToo session other alike
  have reached := ended.finalState
  refine ⟨⟨?_, ?_, ?_⟩, reached⟩
  · unfold Session.report
    generalize runLine now line session = left at ended ⊢
    generalize runLine later line other = right at ended ⊢
    cases ended with
    | ok same _ =>
      cases same
      exact Or.inl ⟨_, rfl, rfl⟩
    | refused alike _ => exact Or.inr ⟨_, _, rfl, rfl, alike⟩
  · exact reached.isConnected_eq
  · exact reached.database?_eq matching

/-- Sessions that are alike answer shared lines alike, one after the other. -/
theorem Alike.transcript (matching : B.Matching C handles) {session : Session B}
    {other : Session C} (alike : session.Alike handles other) (clock clockToo : Nat → Instant)
    {lines : List String} (shared : ∀ line ∈ lines, B.IsSharedLine line ∧ C.IsSharedLine line) :
    List.Forall₂ Report.Alike (session.transcript clock lines)
      (other.transcript clockToo lines) := by
  induction lines generalizing session other clock clockToo with
  | nil => exact .nil
  | cons line lines ih =>
    obtain ⟨sharedLine, sharedToo⟩ := shared line List.mem_cons_self
    obtain ⟨reports, after⟩ := alike.report matching (clock 0) (clockToo 0) sharedLine sharedToo
    exact .cons reports (ih after _ _ fun other mem => shared other (List.mem_cons_of_mem _ mem))

end Session

end KeyConsole
