import KeyConsole.Proofs.Databases.TableFile
import KeyConsole.Proofs.Driver.Breakdown
import KeyConsole.Proofs.Driver.KeyLines
import KeyConsole.Proofs.Driver.Lifecycle
import KeyConsole.Proofs.Durability.Reopening

/-!
# The empty name

A file breaks down when it is to look up the empty name, and for no other reason.  The
name gets there unchecked through selecting and removing a database, so a driver on a file
answers everything but these two, and a script up to the first line that asks for one.
-/

namespace KeyConsole.TableFile

/-- An action looks up the empty name. -/
def LooksUpEmptyName : Primitive backend → Prop
  | .removeDatabase name | .selectDatabase name => name = ""
  | _ => False

/-- An operation gives the file the empty name to look up. -/
def AsksForEmptyName : Operation backend → Prop
  | .removeDatabase name | .selectDatabase name => name = ""
  | .native primitive => LooksUpEmptyName primitive
  | _ => False

/-! ## Actions -/

theorem answers_fromTable {α : Type} (read : Table → α) : Step.Answers (fromTable read) := by
  intro file
  unfold fromTable
  split <;> simp

variable {name : String}

theorem answers_createDatabase : Step.Answers (createDatabase name) := by
  intro file
  unfold createDatabase
  split_ifs <;> simp

theorem answers_removeDatabase (other : name ≠ "") : Step.Answers (removeDatabase name) := by
  intro file
  have nonempty : ¬name.isEmpty = true := mt String.isEmpty_iff.1 other
  unfold removeDatabase
  rw [if_neg nonempty]
  split_ifs <;> simp

theorem answers_selectDatabase (other : name ≠ "") : Step.Answers (selectDatabase name) := by
  intro file
  have nonempty : ¬name.isEmpty = true := mt String.isEmpty_iff.1 other
  unfold selectDatabase
  rw [if_neg nonempty]
  split_ifs <;> simp

/-- An action that does not look up the empty name answers. -/
theorem answers_act {primitive : Primitive backend} (other : ¬LooksUpEmptyName primitive)
    (now : Instant) : Step.Answers (primitive.act now) := by
  cases primitive with
  | get | keys | count => exact Step.answers_discard_iff.2 (answers_fromTable _)
  | rangeKeys =>
    exact Step.answers_discard_iff.2 ((Step.answers_pure _).ite (answers_fromTable _))
  | put | remove | clear | databases | expire | ttl => exact fun _ => Step.not_breaksDown_ok
  | createDatabase name => exact Step.answers_discard_iff.2 answers_createDatabase
  | removeDatabase name => exact Step.answers_discard_iff.2 (answers_removeDatabase other)
  | selectDatabase name => exact Step.answers_discard_iff.2 (answers_selectDatabase other)
  | statsText =>
    refine Step.answers_discard_iff.2 ((answers_fromTable _).bind fun _ => ?_)
    exact fun _ => Step.not_breaksDown_ok
  | extra command own => cases own

theorem answers_acquire (config : Config) : Step.Answers (acquire config) := by
  intro host
  unfold acquire
  dsimp only
  split <;> (try split) <;> simp

/-- The current table of a file has a name. -/
def IsNamed (file : OpenFile) : Prop :=
  file.current ≠ ""

theorem isNamed_of_acquire {config : Config} {host after : Host} {file : OpenFile}
    (opened : acquire config host = .ok file after) : IsNamed file := by
  unfold acquire at opened
  dsimp only at opened
  split at opened <;> (try split at opened) <;> cases opened <;> exact (by decide : "default" ≠ "")

theorem keeps_isNamed (primitive : Primitive backend) : primitive.Keeps IsNamed := by
  intro now
  cases primitive with
  | put | remove | clear | databases | expire | ttl => exact fun _ named => named
  | get | keys | count => exact keeps_fromTable _
  | rangeKeys => exact Step.Keeps.ite (fun _ => Step.keeps_pure _) fun _ => keeps_fromTable _
  | createDatabase | removeDatabase =>
    intro file named
    simp only [Primitive.after, backend, createDatabase, removeDatabase]
    split_ifs <;> exact named
  | selectDatabase name =>
    intro file named
    simp only [Primitive.after, backend, selectDatabase]
    split_ifs with empty found
    · exact named
    · exact fun same => empty (String.isEmpty_iff.2 same)
    · exact named
  | statsText => exact (keeps_fromTable _).bind fun _ _ named => named
  | extra command own => cases own

/-- An action that looks up the empty name breaks down, as the current table has another. -/
theorem breaksDown_act_iff {primitive : Primitive backend} {now : Instant} {file : OpenFile}
    (named : IsNamed file) :
    Step.BreaksDown (primitive.act now file) ↔ LooksUpEmptyName primitive := by
  constructor
  · intro broken
    by_contra other
    exact answers_act other now file broken
  · intro asks
    cases primitive with
    | removeDatabase name =>
      cases asks
      have other : ¬"" = file.current := fun same => named same.symm
      refine Step.breaksDown_discard_iff.2 ?_
      simp only [backend, removeDatabase, if_neg other]
      rfl
    | selectDatabase name =>
      cases asks
      rfl
    | _ => cases asks

/-! ## Operations -/

theorem asksForEmptyName_of_mayRun {operation : Operation backend} {primitive : Primitive backend}
    (mayRun : operation.MayRun primitive) (looks : LooksUpEmptyName primitive) :
    AsksForEmptyName operation := by
  cases operation with
  | connect | disconnect | quit | reopen | setInterrupted | currentDatabase => cases mayRun
  | removeDatabase name | native =>
    cases mayRun
    exact looks
  | selectDatabase name =>
    rcases mayRun with rfl | rfl
    · exact looks
    · cases looks
  | delete =>
    obtain ⟨_, _, rfl⟩ := mayRun
    cases looks
  | rename => rcases mayRun with rfl | ⟨_, ⟨_, rfl⟩ | rfl⟩ <;> cases looks
  | _ =>
    cases mayRun
    cases looks

/-- An operation that does not ask for the empty name answers. -/
theorem answers_run {operation : Operation backend} (other : ¬AsksForEmptyName operation)
    (now : Instant) : Step.Answers (operation.run now) := by
  by_cases inside : operation.IsLifecycle
  · have answersDisconnect : Step.Answers (@Session.disconnect backend) := by
      intro session
      unfold Session.disconnect
      cases session.handle with
      | none => exact Step.not_breaksDown_ok
      | some file => exact Step.not_breaksDown_ok
    cases operation with
    | connect =>
      intro session
      change ¬Step.BreaksDown (Session.connect session)
      unfold Session.connect
      cases session.handle with
      | some file => exact Step.not_breaksDown_ok
      | none =>
        have opens := answers_acquire session.config session.host
        cases opened : backend.acquire session.config session.host with
        | ok file host => exact Step.not_breaksDown_ok
        | error halt host =>
          cases halt with
          | refused cause => exact Step.not_breaksDown_refused
          | broken => exact absurd (Step.breaksDown_iff.2 ⟨_, opened⟩) opens
    | disconnect => exact answersDisconnect
    | quit => exact Session.answers_requireConnected.bind fun _ => answersDisconnect
    | reopen config => exact Step.answers_modify _
    | _ => cases inside
  · exact Operation.answers_run inside fun primitive mayRun =>
      answers_act (fun looks => other (asksForEmptyName_of_mayRun mayRun looks)) now

/-- On a file an operation breaks down if it asks for the empty name, and only then. -/
theorem breaksDown_run_iff {operation : Operation backend} {now : Instant}
    {session : Session backend} (named : session.Upholds IsNamed) :
    Step.BreaksDown (operation.run now session) ↔
      session.isConnected = true ∧ AsksForEmptyName operation := by
  constructor
  · intro broken
    have asks : AsksForEmptyName operation := by
      by_contra other
      exact answers_run other now session broken
    refine ⟨?_, asks⟩
    by_contra closed
    rw [Session.isConnected, Bool.not_eq_true, Option.isSome_eq_false_iff,
      Option.isNone_iff_eq_none] at closed
    have needs : operation.NeedsConnection := by
      cases operation with
      | removeDatabase | selectDatabase | native => trivial
      | _ => cases asks
    rw [Operation.run_of_disconnected needs now closed] at broken
    cases broken
  · rintro ⟨connected, asks⟩
    obtain ⟨file, isFile⟩ := Option.isSome_iff_exists.1 connected
    have breaks {α : Type} {command : String} {act : HandleAction OpenFile α}
        (broken : Step.BreaksDown (act file)) :
        Step.BreaksDown (Session.onHandle (B := backend) command act session) :=
      Session.breaksDown_onHandle_iff.2 ⟨file, isFile, broken⟩
    have acts (primitive : Primitive backend) (looks : LooksUpEmptyName primitive) :
        Step.BreaksDown (primitive.act now file) :=
      (breaksDown_act_iff (named file isFile)).2 looks
    cases operation with
    | removeDatabase name =>
      refine Step.breaksDown_discard_iff.2 (Step.breaksDown_bind_iff.2 (Or.inl (breaks ?_)))
      exact Step.breaksDown_discard_iff.1 (acts (.removeDatabase name) asks)
    | selectDatabase name =>
      refine Step.breaksDown_discard_iff.2 (Step.breaksDown_bind_iff.2 (Or.inl (breaks ?_)))
      exact Step.breaksDown_discard_iff.1 (acts (.selectDatabase name) asks)
    | native primitive => exact breaks (acts primitive asks)
    | _ => cases asks

/-! ## Requests -/

theorem isNamed_of_driven {config : Config} {host : Host} {session : Session backend}
    (driven : session.Driven config host) : session.Upholds IsNamed :=
  driven.reachable.upholds (fun _ _ _ _ opened => isNamed_of_acquire opened) keeps_isNamed

/-- Of the operations behind a call or a line, the one that breaks down asks for the empty
name. -/
theorem someBreaksDown_iff {meant : Option (Operation backend)} {now : Instant}
    {session : Session backend} (named : session.Upholds IsNamed) :
    Operation.SomeBreaksDown now session meant ↔
      session.isConnected = true ∧ ∃ operation ∈ meant, AsksForEmptyName operation := by
  simp only [Operation.SomeBreaksDown, breaksDown_run_iff named]
  constructor
  · rintro ⟨operation, isMeant, connected, asks⟩
    exact ⟨connected, operation, isMeant, asks⟩
  · rintro ⟨connected, operation, isMeant, asks⟩
    exact ⟨operation, isMeant, connected, asks⟩

/-- The call behind a page of keys does not name a database. -/
theorem not_asksForEmptyName_of_scanCall {cursor count : Nat} {pattern : String}
    {operation : Operation backend}
    (meant : operation ∈ backend.callOperation? (Session.scanCall cursor pattern count)) :
    ¬AsksForEmptyName operation := by
  have means : backend.Means (Session.scanCall cursor pattern count) .scan :=
    BackendKind.means_backend .tableFile (by decide) (by decide) (by rfl)
  obtain ⟨⟨cursor, options⟩, asked⟩ := Backend.exists_of_find means meant
  cases asked
  exact id

/-- A script comes to a line that asks for the empty name, while there is a connection. -/
def ComesToEmptyName (clock : Nat → Instant) (raises : Nat → Bool) (session : Session backend)
    (script : String) : Prop :=
  ∃ first line rest results reached, CommandLine.commands script = first ++ line :: rest ∧
    Session.runEach clock 0 first (session.withFlag false) = (results, .ok () reached) ∧
      (∀ n, 1 ≤ n → n ≤ first.length → raises n = false) ∧
        reached.isConnected = true ∧
          ∃ operation ∈ backend.lineOperation? line, AsksForEmptyName operation

/-- The lines of a script leave a connection with a current table that has a name. -/
theorem isNamed_of_runEach {clock : Nat → Instant} {done : Nat} {lines : List String}
    {results : List CommandResult} {session reached : Session backend}
    (named : session.Upholds IsNamed)
    (ran : Session.runEach clock done lines session = (results, .ok () reached)) :
    reached.Upholds IsNamed := by
  have kept (n : Nat) (line : String) :
      Step.Keeps (Session.Upholds IsNamed) (Session.runLine (B := backend) (clock n) line) := by
    intro between named
    rw [Session.finalState_runLine]
    exact Operation.holds_afterAny
      (fun operation _ _ => Session.upholds_after (fun _ _ _ _ => isNamed_of_acquire)
        keeps_isNamed operation (clock n)) named
  have holds : (Step.finalState (Session.runEach clock done lines session).2).Upholds IsNamed :=
    Step.inTurn_keeps kept named
  rwa [ran] at holds

/-- On a file only a script breaks down, when it comes to a line that asks for the empty
name. -/
theorem breaksDown_handleRequest_iff {clock : Nat → Instant} {raises : Nat → Bool}
    {request : Request} {session : Session backend} (named : session.Upholds IsNamed) :
    Step.BreaksDown (session.handleRequest clock raises request) ↔
      ∃ script, request = .execute script ∧ ComesToEmptyName clock raises session script := by
  by_cases scripted : ∃ script, request = .execute script
  · obtain ⟨script, rfl⟩ := scripted
    have namedStart : (session.withFlag false).Upholds IsNamed := named
    have lineBreaks {first : List String} {results : List CommandResult}
        {reached : Session backend} (line : String)
        (ran : Session.runEach clock 0 first (session.withFlag false) = (results, .ok () reached)) :
        Step.BreaksDown (Session.runLine (clock first.length) line reached) ↔
          reached.isConnected = true ∧
            ∃ operation ∈ backend.lineOperation? line, AsksForEmptyName operation :=
      Session.breaksDown_runLine_iff.trans (someBreaksDown_iff (isNamed_of_runEach namedStart ran))
    rw [Session.breaksDown_execute_iff]
    constructor
    · rintro ⟨first, line, rest, results, reached, split, ran, calm, broken⟩
      exact ⟨script, rfl, first, line, rest, results, reached, split, ran, calm,
        (lineBreaks line ran).1 broken⟩
    · rintro ⟨_, same, first, line, rest, results, reached, split, ran, calm, asks⟩
      cases same
      exact ⟨first, line, rest, results, reached, split, ran, calm, (lineBreaks line ran).2 asks⟩
  · have plain : ∀ script, request ≠ .execute script := fun script same => scripted ⟨script, same⟩
    refine iff_of_false (Running.answers_handle plain (fun operation asks now => ?_) _) ?_
    · refine answers_run (fun empty => ?_) now
      cases request with
      | execute script => exact plain script rfl
      | loadContent =>
        rcases asks with meant | rfl
        · exact not_asksForEmptyName_of_scanCall meant empty
        · exact empty
      | discovery => rcases asks with rfl | rfl <;> exact empty
      | key asked => cases asked <;> cases asks <;> exact empty
      | _ =>
        cases asks
        try exact empty
    · rintro ⟨script, same, _⟩
      exact plain script same

/-! ## Drivers on a file -/

/-- A session on a file answers, unless it is connected and asked for the empty name. -/
structure AnswersUnlessEmpty (session : Session backend) : Prop where
  operation : ∀ now operation, Step.BreaksDown (Operation.run now operation session) ↔
    session.isConnected = true ∧ AsksForEmptyName operation
  call : ∀ now text argv, Step.BreaksDown (Session.runCall now text argv session) ↔
    session.isConnected = true ∧
      ∃ operation ∈ backend.callOperation? argv, AsksForEmptyName operation
  line : ∀ now line, Step.BreaksDown (Session.runLine now line session) ↔
    session.isConnected = true ∧
      ∃ operation ∈ backend.lineOperation? line, AsksForEmptyName operation
  request : ∀ clock raises request,
    Step.BreaksDown (session.handleRequest clock raises request) ↔
      ∃ script, request = .execute script ∧ ComesToEmptyName clock raises session script
  /-- Any other name is looked up, and refused if there is no table under it. -/
  missing : ∀ {file : OpenFile} {name}, session.handle = some file → name ≠ "" →
    file.tables.contains name = false →
      ∀ now, Session.selectDatabase now name session
          = .error (.refused (.databaseNotFound name)) session ∧
        Session.removeDatabase name session
          = .error (.refused (.databaseNotFound name)) session
  /-- Creating a table checks the name that these two do not. -/
  create_empty : session.isConnected = true →
    Session.createDatabase "" session
      = .error (.refused (.native 6 "CREATEDB: invalid table name ''")) session

/-- Whatever a driver on a file has been through, it breaks down only when the empty name
is selected or removed. -/
theorem answersUnlessEmpty_of_driven {config : Config} {host : Host} {session : Session backend}
    (driven : session.Driven config host) : AnswersUnlessEmpty session := by
  have named := isNamed_of_driven driven
  exact {
    operation := fun now operation => breaksDown_run_iff named
    call := fun now text argv =>
      Session.breaksDown_runCall_iff.trans (someBreaksDown_iff named)
    line := fun now line => Session.breaksDown_runLine_iff.trans (someBreaksDown_iff named)
    request := fun clock raises request => breaksDown_handleRequest_iff named
    missing := fun {file name} connected other missing now => by
      have present : view.IsPresent file := driven.reachable.isPresent separates connected
      have apart := Session.apart separates now connected present
      have unseen : view.catalog file name = none := by
        rw [← Option.isNone_iff_eq_none, ← Option.isSome_eq_false_iff, ← Bool.not_eq_true,
          isSome_catalog_iff, missing]
        exact Bool.false_ne_true
      have notCurrent : name ≠ file.current := by
        rintro rfl
        exact Bool.false_ne_true (missing.symm.trans (isSome_catalog_iff.1 present))
      exact ⟨apart.selectDatabase_missing name other unseen,
        apart.removeDatabase_missing name other notCurrent unseen⟩
    create_empty := fun connected => by
      obtain ⟨file, connected⟩ := Option.isSome_iff_exists.1 connected
      exact Step.bind_of_error (Session.onHandle_of_refused connected rfl) }

theorem driven_fresh : fresh.Driven freshConfig emptyHost :=
  .single ⟨.input 0 (.operation .connect), trivial, rfl⟩

/-- In a new file the figures can be asked for and a missing table cannot be selected, and
the session breaks down when the empty name is. -/
theorem answersUnlessEmpty_fresh :
    ¬Step.BreaksDown (fresh.handleRequest id (fun _ => false) .serverInfo) ∧
      Session.selectDatabase 1 "x" fresh = .error (.refused (.databaseNotFound "x")) fresh ∧
        Step.BreaksDown (Session.selectDatabase 1 "" fresh) := by
  have answers := answersUnlessEmpty_of_driven driven_fresh
  have connected : fresh.isConnected = true := by decide +kernel
  obtain ⟨file, isFile⟩ := Option.isSome_iff_exists.1 connected
  refine ⟨fun broken => ?_, (answers.missing isFile (by decide) ?_ 1).1, ?_⟩
  · obtain ⟨script, impossible, _⟩ := (answers.request _ _ _).1 broken
    cases impossible
  · cases isFile
    decide +kernel
  · exact Step.breaksDown_discard_iff.1
      ((answers.operation 1 (.selectDatabase "")).2 ⟨connected, rfl⟩)

/-- Not every line is answered: two that name the empty table break a connected session
down, where the third is refused. -/
theorem not_answers_empty_name :
    ¬(∀ config host (session : Session backend), session.Driven config host → ∀ now line,
      (Step.answer? (Session.runLine now line session)).isSome = true) ∧
      (Step.answer? (Session.runLine 1 "SELECT \"\"" fresh)).isNone = true ∧
        (Step.answer? (Session.runLine 1 "REMOVEDB \"\"" fresh)).isNone = true ∧
          (Step.answer? (Session.runLine 1 "CREATEDB \"\"" fresh)).isSome = true := by
  have select : (Step.answer? (Session.runLine 1 "SELECT \"\"" fresh)).isNone = true := by
    decide +kernel
  refine ⟨fun answered => ?_, select, by decide +kernel, by decide +kernel⟩
  have some := answered _ _ fresh driven_fresh 1 "SELECT \"\""
  rw [Option.isNone_iff_eq_none] at select
  rw [select] at some
  cases some

end KeyConsole.TableFile
