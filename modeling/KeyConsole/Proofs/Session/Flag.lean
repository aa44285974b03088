import KeyConsole.Proofs.Session.Call

/-!
# The interrupt flag

Only scripts look at the interrupt flag.  An operation that does not set it, and
stays with its session, does the same whether the flag is up or down, and leaves it
as it is; so does every line.
-/

namespace KeyConsole

variable {B : Backend}

namespace Session

/-- A session with the flag up or down. -/
def withFlag (raised : Bool) (session : Session B) : Session B :=
  { session with interrupted := raised }

@[simp]
theorem handle_withFlag (raised : Bool) (session : Session B) :
    (session.withFlag raised).handle = session.handle :=
  rfl

theorem withFlag_eq_self {session : Session B} {raised : Bool}
    (isFlag : session.interrupted = raised) : session.withFlag raised = session := by
  subst isFlag
  rfl

/-! ## Operations that ignore the flag -/

/-- An operation does not depend on the flag and does not change it. -/
abbrev IgnoresFlag {α : Type} (operation : Action B α) : Prop :=
  ∀ raised, Step.Respects (withFlag raised) operation

variable {α : Type}

theorem ignoresFlag_requireConnected : IgnoresFlag (@requireConnected B) := by
  intro raised session
  simp only [requireConnected, handle_withFlag]
  cases session.handle <;> rfl

theorem ignoresFlag_onHandle (command : String) (act : HandleAction B.Handle α) :
    IgnoresFlag (onHandle command act) := by
  intro raised session
  simp only [onHandle, handle_withFlag]
  cases session.handle with
  | none => rfl
  | some handle => cases acted : act handle <;> simp only [acted] <;> rfl

theorem ignoresFlag_connect : IgnoresFlag (@connect B) := by
  intro raised session
  simp only [connect, handle_withFlag]
  cases session.handle with
  | some handle => rfl
  | none =>
    simp only [withFlag]
    cases B.acquire session.config session.host <;> rfl

theorem ignoresFlag_disconnect : IgnoresFlag (@disconnect B) := by
  intro raised session
  simp only [disconnect, handle_withFlag]
  cases session.handle with
  | none => rfl
  | some handle =>
    simp only [withFlag]
    cases B.release handle session.host <;> rfl

theorem ignoresFlag_quit : IgnoresFlag (@quit B) := fun raised =>
  (ignoresFlag_requireConnected raised).bind fun _ => ignoresFlag_disconnect raised

variable (now : Instant)

theorem ignoresFlag_set (item : Item) : IgnoresFlag (set (B := B) now item) := fun raised =>
  (ignoresFlag_onHandle "SET" _ raised).bind fun _ => Step.respects_pure _

theorem ignoresFlag_get (key : Key) : IgnoresFlag (get (B := B) now key) := by
  intro raised
  apply (ignoresFlag_onHandle "GET" _ raised).bind
  intro found
  cases found with
  | none => exact Step.respects_refuse _
  | some raw => exact Step.respects_pure _

theorem ignoresFlag_deleteFrom (removed keys : List Key) :
    IgnoresFlag (deleteFrom (B := B) now removed keys) := by
  intro raised
  induction keys generalizing removed with
  | nil => exact Step.respects_pure _
  | cons key keys ih => exact (ignoresFlag_onHandle "DEL" _ raised).bind fun _ => ih _

theorem ignoresFlag_delete (keys : List Key) : IgnoresFlag (delete (B := B) now keys) :=
  fun raised => (ignoresFlag_requireConnected raised).bind fun _ =>
    ignoresFlag_deleteFrom now [] keys raised

theorem ignoresFlag_rename (key newKey : Key) :
    IgnoresFlag (rename (B := B) now key newKey) := by
  intro raised
  apply (ignoresFlag_requireConnected raised).bind
  intro _
  apply Step.Respects.ite
  · intro _
    apply (ignoresFlag_get now key raised).bind
    intro item
    apply Step.Respects.ite
    · exact fun _ => Step.respects_pure _
    · intro _
      apply (ignoresFlag_set now _ raised).bind
      intro _
      exact (ignoresFlag_delete now [key] raised).bind fun _ => Step.respects_pure _
  · exact fun _ => Step.respects_refuse _

theorem ignoresFlag_scan (cursor : Nat) (pattern : String) (count : Nat) :
    IgnoresFlag (scan (B := B) now cursor pattern count) := by
  intro raised
  apply Step.Respects.ite
  · exact fun _ => Step.respects_refuse _
  · intro _
    exact (ignoresFlag_onHandle "SCAN" _ raised).bind fun _ => Step.respects_pure _

theorem ignoresFlag_keys (first last : Key) (limit : Nat) :
    IgnoresFlag (keys (B := B) now first last limit) := by
  intro raised
  apply (ignoresFlag_requireConnected raised).bind
  intro _
  apply Step.Respects.ite
  · exact fun _ => Step.respects_pure _
  · exact fun _ => ignoresFlag_onHandle "KEYS" _ raised

theorem ignoresFlag_currentInfo : IgnoresFlag (currentInfo (B := B) now) := fun raised =>
  (ignoresFlag_onHandle "DBKCOUNT" _ raised).bind fun _ =>
    (ignoresFlag_onHandle "DATABASES" _ raised).bind fun _ => Step.respects_pure _

theorem ignoresFlag_selectDatabase (name : String) :
    IgnoresFlag (selectDatabase (B := B) now name) := fun raised =>
  (ignoresFlag_onHandle "SELECT" _ raised).bind fun _ => ignoresFlag_currentInfo now raised

theorem ignoresFlag_serverInfo : IgnoresFlag (serverInfo (B := B) now) := fun raised =>
  (ignoresFlag_onHandle "INFO" _ raised).bind fun _ => Step.respects_ofExcept _

theorem ignoresFlag_requireTtl (operation : String) :
    IgnoresFlag (@requireTtl B operation) := by
  intro raised
  apply (ignoresFlag_requireConnected raised).bind
  intro _
  apply Step.Respects.ite
  · exact fun _ => Step.respects_pure _
  · exact fun _ => Step.respects_refuse _

theorem ignoresFlag_expire (key : Key) (seconds : Nat) :
    IgnoresFlag (expire (B := B) now key seconds) := fun raised =>
  (ignoresFlag_requireTtl "EXPIRE" raised).bind fun _ => ignoresFlag_onHandle "EXPIRE" _ raised

theorem ignoresFlag_ttl (key : Key) : IgnoresFlag (ttl (B := B) now key) := fun raised =>
  (ignoresFlag_requireTtl "TTL" raised).bind fun _ => ignoresFlag_onHandle "TTL" _ raised

end Session

namespace Operation

/-- An operation does not set the flag and does not give up the session. -/
def LeavesFlag : Operation B → Prop
  | reopen _ | setInterrupted _ => False
  | _ => True

/-- Such an operation does the same whether the flag is up or down. -/
theorem after_withFlag {operation : Operation B} (leaves : operation.LeavesFlag) (now : Instant)
    (raised : Bool) (session : Session B) :
    operation.after now (session.withFlag raised)
      = (operation.after now session).withFlag raised := by
  cases operation with
  | reopen | setInterrupted => cases leaves
  | connect => exact (Session.ignoresFlag_connect raised).finalState_eq session
  | disconnect => exact (Session.ignoresFlag_disconnect raised).finalState_eq session
  | quit => exact (Session.ignoresFlag_quit raised).finalState_eq session
  | set item => exact (Session.ignoresFlag_set now item raised).finalState_eq session
  | get key => exact (Session.ignoresFlag_get now key raised).finalState_eq session
  | delete keys => exact (Session.ignoresFlag_delete now keys raised).finalState_eq session
  | rename key newKey =>
    exact (Session.ignoresFlag_rename now key newKey raised).finalState_eq session
  | scan cursor pattern count =>
    exact (Session.ignoresFlag_scan now cursor pattern count raised).finalState_eq session
  | keys first last limit =>
    exact (Session.ignoresFlag_keys now first last limit raised).finalState_eq session
  | size => exact (Session.ignoresFlag_onHandle "DBKCOUNT" _ raised).finalState_eq session
  | flush => exact (Session.ignoresFlag_onHandle "FLUSHDB" _ raised).finalState_eq session
  | createDatabase name =>
    refine Step.Respects.finalState_eq (Step.Respects.bind ?_ fun _ => Step.respects_pure _) session
    exact Session.ignoresFlag_onHandle "CREATEDB" _ raised
  | removeDatabase name =>
    refine Step.Respects.finalState_eq (Step.Respects.bind ?_ fun _ => Step.respects_pure _) session
    exact Session.ignoresFlag_onHandle "REMOVEDB" _ raised
  | selectDatabase name =>
    exact (Session.ignoresFlag_selectDatabase now name raised).finalState_eq session
  | currentDatabase =>
    exact (Session.ignoresFlag_onHandle "DATABASES" _ raised).finalState_eq session
  | currentInfo => exact (Session.ignoresFlag_currentInfo now raised).finalState_eq session
  | databases => exact (Session.ignoresFlag_onHandle "DATABASES" _ raised).finalState_eq session
  | infoText => exact (Session.ignoresFlag_onHandle "INFO" _ raised).finalState_eq session
  | serverInfo => exact (Session.ignoresFlag_serverInfo now raised).finalState_eq session
  | expire key seconds =>
    exact (Session.ignoresFlag_expire now key seconds raised).finalState_eq session
  | ttl key => exact (Session.ignoresFlag_ttl now key raised).finalState_eq session
  | native primitive => rfl

theorem interrupted_after {operation : Operation B} (leaves : operation.LeavesFlag) (now : Instant)
    (session : Session B) : (operation.after now session).interrupted = session.interrupted := by
  have same := after_withFlag leaves now session.interrupted session
  rw [Session.withFlag_eq_self rfl] at same
  rw [same]
  rfl

end Operation

/-! ## Lines -/

theorem Builtin.Invocation.leavesFlag_of_operation? {builtin : Builtin}
    {invocation : builtin.Invocation} {operation : Operation B}
    (asked : invocation.operation? = some operation) : operation.LeavesFlag := by
  cases invocation <;> cases asked <;> trivial

theorem Backend.leavesFlag_of_callOperation? {argv : List Bytes} {operation : Operation B}
    (meant : B.callOperation? argv = some operation) : operation.LeavesFlag := by
  rcases B.exists_of_callOperation? meant with ⟨_, _, asked⟩ | ⟨command, own, args, rfl⟩
  · exact Builtin.Invocation.leavesFlag_of_operation? asked
  · trivial

/-- A line leaves the flag as it is. -/
theorem Session.interrupted_runLine (now : Instant) (line : String) (session : Session B) :
    (Step.finalState (Session.runLine now line session)).interrupted = session.interrupted := by
  rw [Session.finalState_runLine]
  cases meant : B.lineOperation? line with
  | none => rfl
  | some operation =>
    obtain ⟨argv, asked⟩ := B.exists_call_of_lineOperation? meant
    exact Operation.interrupted_after (B.leavesFlag_of_callOperation? asked) now session

end KeyConsole
