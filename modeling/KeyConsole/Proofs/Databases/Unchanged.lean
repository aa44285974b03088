import KeyConsole.Proofs.Databases.Isolation
import KeyConsole.Proofs.Session.Flag

/-!
# Lines that change nothing

Commands check their arguments and what they work on before they change anything, and
those that only look drop at most what cannot be seen any more.  So a line that fails
or only looks leaves the connection, the databases with all that is seen in them, the
current one and the interrupt flag as they were.
-/

namespace KeyConsole

variable {B : Backend} {view : B.View} {now : Instant}

/-! ## Operations that fail -/

/-- An action that leaves the handle as it is whenever it halts. -/
theorem Backend.View.haltsUnseen_of_kept {α : Type} {act : HandleAction B.Handle α}
    (kept : ∀ handle, (∃ halt, act handle = .error halt handle) ∨
      ∃ result after, act handle = .ok result after) :
    (view.confinement now).HaltsUnseen act := by
  intro handle present halt after halted
  rcases kept handle with ⟨cause, ran⟩ | ⟨result, last, ran⟩
  · cases ran.symm.trans halted
    exact (view.confinement now).same_refl present
  · cases ran.symm.trans halted

namespace Backend.Separates

variable (separates : B.Separates view) (name : String)

include separates

theorem haltsUnseen_createDatabase :
    (view.confinement now).HaltsUnseen (B.createDatabase name) := by
  apply view.haltsUnseen_of_kept
  intro handle
  rcases separates.createDatabase_cases name handle with ⟨cause, ran⟩ | ⟨_, after, ran, _⟩
  · exact Or.inl ⟨_, ran⟩
  · exact Or.inr ⟨(), after, ran⟩

theorem haltsUnseen_removeDatabase :
    (view.confinement now).HaltsUnseen (B.removeDatabase name) := by
  apply view.haltsUnseen_of_kept
  intro handle
  rcases separates.removeDatabase_cases name handle with halted | ⟨_, after, ran, _⟩
  · exact Or.inl halted
  · exact Or.inr ⟨(), after, ran⟩

theorem haltsUnseen_selectDatabase :
    (view.confinement now).HaltsUnseen (B.selectDatabase name) := by
  apply view.haltsUnseen_of_kept
  intro handle
  rcases separates.selectDatabase_cases name handle with halted | ⟨_, after, ran, _⟩
  · exact Or.inl halted
  · exact Or.inr ⟨(), after, ran⟩

end Backend.Separates

namespace Session

theorem haltsUnseen_createDatabase (separates : B.Separates view) (name : String) :
    (confinement (view.confinement now)).HaltsUnseen (createDatabase name) :=
  (haltsUnseen_onHandle "CREATEDB" (separates.haltsUnseen_createDatabase name)).bind_of_succeeds
    fun _ _ => ⟨_, _, rfl⟩

theorem haltsUnseen_removeDatabase (separates : B.Separates view) (name : String) :
    (confinement (view.confinement now)).HaltsUnseen (removeDatabase name) :=
  (haltsUnseen_onHandle "REMOVEDB" (separates.haltsUnseen_removeDatabase name)).bind_of_succeeds
    fun _ _ => ⟨_, _, rfl⟩

/-- Once a database has been selected nothing fails, for it can be counted. -/
theorem haltsUnseen_selectDatabase (separates : B.Separates view) (name : String) :
    (confinement (view.confinement now)).HaltsUnseen (selectDatabase now name) := by
  rintro session ⟨handle, connected, present⟩ halt after halted
  rcases Step.bind_eq_error_iff.1 halted with refused | ⟨_, between, selected, _⟩
  · exact haltsUnseen_onHandle "SELECT" (separates.haltsUnseen_selectDatabase name) session
      ⟨handle, connected, present⟩ halt after refused
  · obtain ⟨same, held, isSame, ran, _⟩ := onHandle_eq_ok_iff.1 selected
    cases connected.symm.trans isSame
    have presentHeld := separates.isPresent_selectDatabase name present
    rw [ran] at presentHeld
    obtain ⟨info, last, succeeded, _⟩ := selectDatabase_eq_ok separates connected ran presentHeld
    cases succeeded.symm.trans halted

theorem haltsUnseen_quit (inner : Step.Confinement B.Handle)
    (released : ∀ handle host, ∃ after, B.release handle host = .ok () after) :
    (confinement inner).HaltsUnseen (@quit B) := by
  rintro session ⟨handle, connected, _⟩ halt after halted
  obtain ⟨host, ran⟩ := released handle session.host
  have quitted : quit session = .ok () { session with host := host, handle := none } := by
    rw [quit, Step.bind_of_ok (requireConnected_of_connected connected)]
    simp only [disconnect, connected, ran]
  cases quitted.symm.trans halted

end Session

/-! ## Commands -/

namespace Session

/-- What a command may change of a connected session, whatever it replies. -/
def guard (view : B.View) (now : Instant) : Step.Confinement (Exchange (Session B)) :=
  (confinement (view.confinement now)).comap Exchange.context

theorem reads_reply (value : Value) : (guard view now).Reads (Handler.reply value) :=
  fun _ valid => (confinement (view.confinement now)).same_refl valid

theorem reads_onContext {α : Type} {operation : Action B α}
    (reads : (confinement (view.confinement now)).Reads operation) :
    (guard view now).Reads (Handler.onContext operation) := by
  intro exchange valid
  have same := reads exchange.context valid
  unfold Handler.onContext
  cases ran : operation exchange.context <;> rwa [ran] at same

/-- A command that replies once an operation is done fails only if the operation does. -/
theorem haltsUnseen_onContext_bind {α : Type} {operation : Action B α}
    (unseen : (confinement (view.confinement now)).HaltsUnseen operation)
    (value : α → Value) :
    (guard view now).HaltsUnseen
      (Handler.onContext operation >>= fun result => Handler.reply (value result)) := by
  apply Step.Confinement.HaltsUnseen.bind_of_succeeds
  · intro exchange valid halt after halted
    unfold Handler.onContext at halted
    cases ran : operation exchange.context with
    | ok result context =>
      rw [ran] at halted
      cases halted
    | error cause context =>
      rw [ran] at halted
      cases halted
      exact unseen exchange.context valid _ context ran
  · exact fun _ _ => ⟨_, _, rfl⟩

end Session

namespace Builtin

open Session Step.Confinement

/-- Whether a command only looks. -/
def isReading : Builtin → Bool
  | get | scan | keys | countKeys | ttl | info | configGet | help => true
  | set | del | rename | flush | createDb | removeDb | select | expire | quit => false

theorem reads_breakDown : (guard view now).Reads (Step.breakDown : Act B Unit) :=
  fun _ valid => (guard view now).same_refl valid

/-- A command that only looks changes nothing that can be seen when it has its
arguments. -/
theorem Invocation.reads_steps (separates : B.Separates view) {builtin : Builtin}
    (reading : builtin.isReading = true) (invocation : Invocation builtin) :
    (guard view now).Reads (invocation.steps (B := B) now) := by
  cases invocation with
  | get key => exact (reads_onContext (reads_get separates now key)).bind fun _ => reads_reply _
  | scan cursor options =>
    have scanned := reads_scan separates now cursor options.pattern options.count
    exact (reads_onContext scanned).bind fun _ => reads_reply _
  | keys first last limit =>
    have listed := reads_keys separates now first last limit
    exact (reads_onContext listed).bind fun _ => reads_reply _
  | countKeys =>
    have counted := reads_onHandle "DBKCOUNT" (separates.count now)
    exact (reads_onContext counted).bind fun _ => reads_reply _
  | ttl key => exact (reads_onContext (reads_ttl separates now key)).bind fun _ => reads_reply _
  | info section? =>
    apply (reads_onContext (reads_onHandle "INFO" (separates.statsText now))).bind
    intro text
    cases section? with
    | none => exact reads_reply _
    | some name => exact (reads_ofExcept _).bind fun _ => reads_reply _
  | configGet wanted =>
    apply (reads_of_finalState_eq fun _ => rfl).bind
    intro exchange
    exact (reads_refuse _).ite (reads_reply _)
  | help args => exact (reads_ofExcept _).bind fun _ => reads_reply _
  | set | del | rename | flush | createDb | removeDb | select | expire | quit => cases reading

/-- A command that only looks changes nothing that can be seen, however it ends. -/
theorem reads_run (separates : B.Separates view) {builtin : Builtin}
    (reading : builtin.isReading = true) (args : List Bytes) :
    (guard view now).Reads (builtin.run (B := B) now args) := by
  unfold run runOr
  cases builtin.invocation? args with
  | none => exact reads_breakDown
  | some read =>
    exact (reads_ofExcept read).bind fun invocation => invocation.reads_steps separates reading

/-- A command that has its arguments changes nothing that can be seen if it fails. -/
theorem Invocation.haltsUnseen_steps (separates : B.Separates view)
    (released : ∀ handle host, ∃ after, B.release handle host = .ok () after)
    {builtin : Builtin} (invocation : Invocation builtin) :
    (guard view now).HaltsUnseen (invocation.steps (B := B) now) := by
  cases invocation with
  | get | scan | keys | countKeys | ttl | info | configGet | help =>
    exact (reads_steps separates rfl _).confines.haltsUnseen
  | set item =>
    exact haltsUnseen_onContext_bind (writes_set separates now item).confines.haltsUnseen _
  | del wanted =>
    exact haltsUnseen_onContext_bind (writes_delete separates now wanted).confines.haltsUnseen _
  | rename key newKey =>
    exact haltsUnseen_onContext_bind (confines_rename separates now key newKey).haltsUnseen _
  | flush =>
    have cleared := writes_onHandle "FLUSHDB" (separates.clear now)
    exact haltsUnseen_onContext_bind cleared.confines.haltsUnseen _
  | createDb name => exact haltsUnseen_onContext_bind (haltsUnseen_createDatabase separates name) _
  | removeDb name => exact haltsUnseen_onContext_bind (haltsUnseen_removeDatabase separates name) _
  | select name => exact haltsUnseen_onContext_bind (haltsUnseen_selectDatabase separates name) _
  | expire key seconds =>
    exact haltsUnseen_onContext_bind (confines_expire separates now key seconds).haltsUnseen _
  | quit => exact haltsUnseen_onContext_bind (haltsUnseen_quit _ released) _

/-- A command that fails changes nothing that can be seen. -/
theorem haltsUnseen_run (separates : B.Separates view)
    (released : ∀ handle host, ∃ after, B.release handle host = .ok () after)
    (builtin : Builtin) (args : List Bytes) :
    (guard view now).HaltsUnseen (builtin.run (B := B) now args) := by
  unfold run runOr
  cases builtin.invocation? args with
  | none => exact reads_breakDown.confines.haltsUnseen
  | some read =>
    exact (reads_ofExcept read).bind_haltsUnseen fun invocation =>
      invocation.haltsUnseen_steps separates released

end Builtin

/-! ## Calls without a connection -/

namespace Operation

theorem after_of_disconnected {operation : Operation B} (inside : ¬operation.IsLifecycle)
    (leaves : operation.LeavesFlag) {session : Session B} (disconnected : session.handle = none) :
    operation.after now session = session := by
  have stands := stands_after_of_disconnected inside now disconnected
  have flag := interrupted_after leaves now session
  generalize operation.after now session = after at stands flag ⊢
  rcases session with ⟨config, host, handle, interrupted⟩
  rcases after with ⟨configAfter, hostAfter, handleAfter, interruptedAfter⟩
  obtain ⟨rfl, rfl, rfl⟩ := stands
  cases disconnected
  cases flag
  rfl

end Operation

theorem Builtin.Invocation.eq_quit_or_of_operation? {builtin : Builtin}
    {invocation : builtin.Invocation} {operation : Operation B}
    (asked : invocation.operation? = some operation) :
    operation = .quit ∨ ¬operation.IsLifecycle := by
  cases invocation <;> cases asked <;> first | exact Or.inl rfl | exact Or.inr id

/-- No command connects, and none but one disconnects. -/
theorem Backend.eq_quit_or_of_callOperation? {argv : List Bytes} {operation : Operation B}
    (meant : B.callOperation? argv = some operation) :
    operation = .quit ∨ ¬operation.IsLifecycle := by
  rcases B.exists_of_callOperation? meant with ⟨_, _, asked⟩ | ⟨command, own, args, rfl⟩
  · exact Builtin.Invocation.eq_quit_or_of_operation? asked
  · exact Or.inr id

/-- Without a connection a call changes nothing. -/
theorem Session.finalState_runCall_of_disconnected {session : Session B}
    (disconnected : session.handle = none) (text : String) (argv : List Bytes) :
    Step.finalState (runCall now text argv session) = session := by
  rw [finalState_runCall]
  cases meant : B.callOperation? argv with
  | none => rfl
  | some operation =>
    rcases B.eq_quit_or_of_callOperation? meant with rfl | inside
    · exact (finalState_quit session).trans (finalState_disconnect_of_disconnected disconnected)
    · have leaves := B.leavesFlag_of_callOperation? meant
      exact Operation.after_of_disconnected inside leaves disconnected

/-! ## Calls -/

/-- The names of the commands that only look. -/
def readingNames : List String :=
  ["GET", "SCAN", "KEYS", "DBKCOUNT", "TTL", "INFO", "CONFIG GET", "HELP", "PURGE"]

/-- A call resolves to a command that only looks. -/
def Backend.MeansReading (B : Backend) (argv : List Bytes) : Prop :=
  ∃ command consumed, CommandTable.find B.commands argv = some (command, consumed) ∧
    command.info.name ∈ readingNames

theorem Builtin.isReading_of_mem {builtin : Builtin}
    (mem : builtin.description.name ∈ readingNames) : builtin.isReading = true := by
  cases builtin <;> first | rfl | exact absurd mem (by decide)

namespace Entry

open Session

/-- The commands that only one backend has only look. -/
theorem reads_lift (separates : B.Separates view) {command : HandleCommand B.Handle}
    (own : command ∈ B.extraCommands) (args : List Bytes) :
    (guard view now).Reads (command.lift.run now args) := by
  have acted := reads_onHandle command.info.name (separates.extra command own now args)
  apply (reads_onContext acted).bind
  intro values exchange valid
  exact (guard view now).same_refl valid

theorem reads_run (separates : B.Separates view) {entry : Entry B}
    (reading : entry.command.info.name ∈ readingNames) (args : List Bytes) :
    (guard view now).Reads (entry.command.run now args) := by
  cases entry with
  | builtin meant => exact Builtin.reads_run separates (Builtin.isReading_of_mem reading) args
  | extra command own => exact reads_lift separates own args

theorem haltsUnseen_run (separates : B.Separates view)
    (released : ∀ handle host, ∃ after, B.release handle host = .ok () after)
    (entry : Entry B) (args : List Bytes) :
    (guard view now).HaltsUnseen (entry.command.run now args) := by
  cases entry with
  | builtin meant => exact Builtin.haltsUnseen_run separates released meant args
  | extra command own => exact (reads_lift separates own args).confines.haltsUnseen

end Entry

namespace Session

open Step.Confinement

theorem reads_execute (separates : B.Separates view) {argv : List Bytes}
    (reading : B.MeansReading argv) : (guard view now).Reads (B.commands.execute now argv) := by
  obtain ⟨command, consumed, found, mem⟩ := reading
  cases argv with
  | nil => exact reads_refuse _
  | cons first rest =>
    simp only [CommandTable.execute, found]
    rw [Backend.find_commands] at found
    obtain ⟨⟨entry, length⟩, isFound, same⟩ := Option.map_eq_some_iff.1 found
    cases same
    apply Reads.ite
    · exact Entry.reads_run separates mem _
    · exact reads_refuse _

theorem haltsUnseen_execute (separates : B.Separates view)
    (released : ∀ handle host, ∃ after, B.release handle host = .ok () after)
    (argv : List Bytes) : (guard view now).HaltsUnseen (B.commands.execute now argv) := by
  cases argv with
  | nil => exact (reads_refuse _).confines.haltsUnseen
  | cons first rest =>
    simp only [CommandTable.execute, Backend.find_commands]
    cases B.find (first :: rest) with
    | none => exact (reads_refuse _).confines.haltsUnseen
    | some found =>
      rcases found with ⟨entry, consumed⟩
      simp only [Option.map_some, Prod.map, id]
      split
      · exact entry.haltsUnseen_run separates released _
      · exact (reads_refuse _).confines.haltsUnseen

/-! ## Sessions that look alike -/

/-- Nothing that can be seen of a session from an instant on has changed. -/
structure LooksAlike (view : B.View) (now : Instant) (before after : Session B) : Prop where
  config : after.config = before.config
  host : after.host = before.host
  connected : after.isConnected = before.isConnected
  current : after.database? = before.database?
  /-- The databases, and in each the items with their values and deadlines. -/
  items : (after.handle.map fun handle => (view.catalog handle).since now)
    = before.handle.map fun handle => (view.catalog handle).since now
  interrupted : after.interrupted = before.interrupted

theorem LooksAlike.refl (view : B.View) (now : Instant) (session : Session B) :
    LooksAlike view now session session :=
  ⟨rfl, rfl, rfl, rfl, rfl, rfl⟩

theorem looksAlike_of_same {before after : Session B}
    (same : (confinement (view.confinement now)).same before after) :
    LooksAlike view now before after := by
  obtain ⟨handle, held, connected, rfl, near, unseen⟩ := same
  constructor
  · rfl
  · rfl
  · simp [isConnected, connected]
  · simp [database?, connected, near.current]
  · simp [connected, unseen]
  · rfl

theorem looksAlike_runCall (separates : B.Separates view)
    (released : ∀ handle host, ∃ after, B.release handle host = .ok () after)
    {session : Session B} (sound : Upholds view.IsPresent session) {text : String}
    {argv : List Bytes}
    (quiet : (∃ cause, Step.answer? (runCall now text argv session) = some (.error cause)) ∨
      B.MeansReading argv) :
    LooksAlike view now session (Step.finalState (runCall now text argv session)) := by
  cases connected : session.handle with
  | none =>
    rw [finalState_runCall_of_disconnected connected]
    exact .refl view now session
  | some handle =>
    have valid : (guard view now).valid ⟨session, []⟩ :=
      ⟨handle, connected, sound handle connected⟩
    apply looksAlike_of_same
    rcases quiet with ⟨cause, refused⟩ | reading
    · unfold runCall at refused ⊢
      cases ran : B.commands.execute now argv ⟨session, []⟩ with
      | ok _ exchange =>
        rw [ran] at refused
        cases refused
      | error halt exchange =>
        exact haltsUnseen_execute separates released argv _ valid halt exchange ran
    · have same := reads_execute separates reading ⟨session, []⟩ valid
      unfold runCall
      cases ran : B.commands.execute now argv ⟨session, []⟩ <;> rwa [ran] at same

end Session

theorem BackendKind.release_eq_ok (kind : BackendKind) (handle : kind.backend.Handle)
    (host : kind.backend.Host) : ∃ after, kind.backend.release handle host = .ok () after := by
  cases kind <;> exact ⟨_, rfl⟩

/-- Whatever a session of either kind has been through, a call or a line that fails or
only looks leaves all that can be seen of it as it was. -/
theorem Session.looksAlike_of_refused_or_reading {kind : BackendKind} {config : Config}
    {host : kind.backend.Host} {session : Session kind.backend}
    (reachable : Reachable config host session) (now : Instant) :
    (∀ text argv,
      (∃ cause, Step.answer? (runCall now text argv session) = some (.error cause)) ∨
        kind.backend.MeansReading argv →
      LooksAlike kind.view now session (Step.finalState (runCall now text argv session))) ∧
    ∀ line,
      (∃ cause, Step.answer? (runLine now line session) = some (.error cause)) ∨
        (∃ argv, CommandLine.tokens line = .ok argv ∧ kind.backend.MeansReading argv) →
      LooksAlike kind.view now session (Step.finalState (runLine now line session)) := by
  have sound : Upholds kind.view.IsPresent session := fun _ =>
    reachable.isPresent kind.separates_view
  have called {text : String} {argv : List Bytes} :=
    @looksAlike_runCall _ _ now kind.separates_view kind.release_eq_ok _ sound text argv
  constructor
  · intro text argv quiet
    exact called quiet
  · intro line quiet
    cases tokens : CommandLine.tokens line with
    | error cause =>
      have refused : runLine now line session = .error (.refused cause) session := by
        rw [runLine, tokens]
        rfl
      rw [refused]
      exact .refl kind.view now session
    | ok argv =>
      have same : runLine now line session = runCall now line argv session := by
        rw [runLine, tokens]
        rfl
      rw [same] at quiet ⊢
      apply called
      rcases quiet with refused | ⟨other, isOther, reading⟩
      · exact Or.inl refused
      · cases tokens.symm.trans isOther
        exact Or.inr reading

namespace Session

/-- A session in memory whose only key expires after a second. -/
def expiring : Session Memory.backend :=
  let store : Memory.Store :=
    ⟨OrderedMap.singleton "default" (Storage.Engine.empty Storage.spread), "default"⟩
  let session : Session Memory.backend := ⟨Config.forDatabase "default", (), some store, false⟩
  let stored := Step.finalState (runLine 0 "SET k v" session)
  Step.finalState (runLine 0 "EXPIRE k 1" stored)

theorem reachable_expiring : Reachable (Config.forDatabase "default") () expiring :=
  ((Relation.ReflTransGen.single ⟨0, .operation .connect, fun _ _ => trivial, rfl⟩).tail
    ⟨0, .line "SET k v", fun _ _ => trivial, rfl⟩).tail
    ⟨0, .line "EXPIRE k 1", fun _ _ => trivial, rfl⟩

/-- A slot that has expired is dropped by a command that only looks, and a database in
use is not removed. -/
theorem looksAlike_of_refused_or_reading_expiring :
    Step.answer? (runLine 2000000000 "PURGE" expiring) = some (.ok ⟨"PURGE", [.integer 1]⟩) ∧
      LooksAlike Memory.view 2000000000 expiring
        (Step.finalState (runLine 2000000000 "PURGE" expiring)) ∧
      Step.answer? (runLine 2000000000 "REMOVEDB default" expiring)
        = some (.error (.native 3 "REMOVEDB: database 'default' is in use")) ∧
      LooksAlike Memory.view 2000000000 expiring
        (Step.finalState (runLine 2000000000 "REMOVEDB default" expiring)) := by
  have reading : Memory.backend.MeansReading [Text.encode "PURGE"] :=
    ⟨Memory.purgeCommand.lift, 1, rfl, by decide⟩
  have refused : Step.answer? (runLine 2000000000 "REMOVEDB default" expiring)
      = some (.error (.native 3 "REMOVEDB: database 'default' is in use")) := by rfl
  have alike := (@looksAlike_of_refused_or_reading .memory _ _ expiring reachable_expiring
    2000000000).2
  exact ⟨by rfl, alike "PURGE" (Or.inr ⟨_, rfl, reading⟩), refused,
    alike "REMOVEDB default" (Or.inl ⟨_, refused⟩)⟩

end Session

end KeyConsole
