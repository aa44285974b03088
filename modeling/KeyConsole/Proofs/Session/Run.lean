import Mathlib.Logic.Relation
import KeyConsole.Proofs.Session.Call

/-!
# Runs of a session

A session is given operations, calls and lines, one after the other and each at
an instant of its own.  Whatever becomes of an input, the run goes on from the
session that it leaves.
-/

namespace KeyConsole

variable {B : Backend}

/-- What a session can be given. -/
inductive Input (B : Backend) where
  | operation (operation : Operation B)
  /-- A call with the text it is known by. -/
  | call (line : String) (argv : List Bytes)
  | line (line : String)

namespace Input

/-- The session after an input. -/
def after (now : Instant) : Input B → Session B → Session B
  | operation meant, session => meant.after now session
  | call text argv, session => Step.finalState (Session.runCall now text argv session)
  | line text, session => Step.finalState (Session.runLine now text session)

/-- The operation behind an input. -/
def operation? : Input B → Option (Operation B)
  | operation meant => some meant
  | call _ argv => B.callOperation? argv
  | line text => B.lineOperation? text

/-- An input does to a session what the operation behind it does. -/
theorem after_eq_afterAny (now : Instant) (input : Input B) (session : Session B) :
    input.after now session = Operation.afterAny now input.operation? session := by
  cases input with
  | operation meant => rfl
  | call text argv => exact Session.finalState_runCall now text argv session
  | line text => exact Session.finalState_runLine now text session

end Input

namespace Session

/-- The name of the current database of a connected session. -/
def database? (session : Session B) : Option String :=
  session.handle.map B.currentDatabase

theorem database?_eq_some_iff {session : Session B} {database : String} :
    session.database? = some database ↔
      ∃ handle, session.handle = some handle ∧ B.currentDatabase handle = database := by
  simp [database?]

/-- A session becomes another by an input behind which there is no operation that is
not allowed. -/
def Moves (allowed : Operation B → Session B → Prop) (before after : Session B) : Prop :=
  ∃ (now : Instant) (input : Input B),
    (∀ operation ∈ input.operation?, allowed operation before) ∧ after = input.after now before

/-- A session becomes another by finitely many inputs. -/
abbrev Runs (allowed : Operation B → Session B → Prop) : Session B → Session B → Prop :=
  Relation.ReflTransGen (Moves allowed)

/-- A session that began with given settings on a given host. -/
def Reachable (config : Config) (host : B.Host) (session : Session B) : Prop :=
  Runs (fun _ _ => True) (new config host) session

/-- A session becomes another by an input at an instant of some time, behind which there is
no operation that is not allowed. -/
def MovesDuring (during : Instant → Prop) (allowed : Operation B → Session B → Prop)
    (before after : Session B) : Prop :=
  ∃ (now : Instant) (input : Input B), during now ∧
    (∀ operation ∈ input.operation?, allowed operation before) ∧ after = input.after now before

/-- A session becomes another by finitely many inputs at instants of some time. -/
abbrev RunsDuring (during : Instant → Prop) (allowed : Operation B → Session B → Prop) :
    Session B → Session B → Prop :=
  Relation.ReflTransGen (MovesDuring during allowed)

section

variable {during : Instant → Prop} {allowed : Operation B → Session B → Prop}
  {property : Session B → Prop} {first last : Session B}

/-- A run keeps what every allowed operation keeps while it goes on. -/
theorem RunsDuring.induction
    (kept : ∀ operation now session, during now → allowed operation session → property session →
      property (operation.after now session))
    (run : RunsDuring during allowed first last) (holds : property first) : property last := by
  induction run with
  | refl => exact holds
  | @tail middle last _ move ih =>
    rcases move with ⟨now, input, inside, permitted, rfl⟩
    rw [Input.after_eq_afterAny]
    cases meant : input.operation? with
    | none => exact ih
    | some operation => exact kept operation now middle inside (permitted operation meant) ih

/-- A run keeps what every allowed operation keeps. -/
theorem Runs.induction
    (kept : ∀ operation now session, allowed operation session → property session →
      property (operation.after now session))
    (run : Runs allowed first last) (holds : property first) : property last := by
  have timed : RunsDuring (fun _ => True) allowed first last :=
    run.lift id fun _ _ ⟨now, input, permitted, isAfter⟩ =>
      ⟨now, input, trivial, permitted, isAfter⟩
  exact timed.induction (fun operation now session _ => kept operation now session) holds

/-- What is reached from a session that can be reached can be reached as well. -/
theorem Reachable.runsDuring {config : Config} {host : B.Host}
    (reachable : Reachable config host first) (run : RunsDuring during allowed first last) :
    Reachable config host last :=
  Relation.ReflTransGen.trans reachable <|
    run.lift id fun _ _ ⟨now, input, _, _, isAfter⟩ => ⟨now, input, fun _ _ => trivial, isAfter⟩

end

/-! ## Handles in every session -/

/-- Whenever the session is connected, its handle has a property. -/
def Upholds (property : B.Handle → Prop) (session : Session B) : Prop :=
  ∀ handle, session.handle = some handle → property handle

variable {property : B.Handle → Prop} {session : Session B}

theorem upholds_of_disconnected (disconnected : session.handle = none) :
    Upholds property session := by
  intro handle connected
  cases disconnected.symm.trans connected

theorem upholds_of_exists
    (holds : ∃ handle, session.handle = some handle ∧ property handle) :
    Upholds property session := by
  rcases holds with ⟨handle, connected, holds⟩
  intro other isOther
  cases connected.symm.trans isOther
  exact holds

section

variable (opened : ∀ config host handle after, B.acquire config host = .ok handle after →
  property handle)

include opened

theorem upholds_connect (upholds : Upholds property session) :
    Upholds property (Step.finalState (connect session)) := by
  cases connected : session.handle with
  | some handle =>
    rw [finalState_connect_of_connected connected]
    exact upholds
  | none =>
    simp only [connect, connected]
    cases acquired : B.acquire session.config session.host with
    | error halt host => exact upholds_of_disconnected rfl
    | ok handle host =>
      rintro _ isHandle
      cases isHandle
      exact opened _ _ _ _ acquired

/-- No operation ends a property of all handles unless it acts on one and takes it away. -/
theorem upholds_after_of_inside {operation : Operation B} {now : Instant}
    (upholds : Upholds property session)
    (kept : ¬operation.IsLifecycle → ∀ handle, session.handle = some handle →
      Upholds property (operation.after now session)) :
    Upholds property (operation.after now session) := by
  by_cases inside : operation.IsLifecycle
  · cases operation with
    | connect => exact upholds_connect opened upholds
    | disconnect => exact upholds_of_disconnected (handle_finalState_disconnect session)
    | quit =>
      change Upholds property (Step.finalState (quit session))
      rw [finalState_quit]
      exact upholds_of_disconnected (handle_finalState_disconnect session)
    | reopen config => exact upholds_of_disconnected rfl
    | _ => cases inside
  · cases connected : session.handle with
    | none =>
      exact upholds_of_disconnected
        (Operation.stands_after_of_disconnected inside now connected).handle
    | some handle => exact kept inside handle connected

/-- No operation ends what every action on the handle keeps. -/
theorem upholds_after
    (kept : ∀ primitive : Primitive B, primitive.Keeps property) (operation : Operation B)
    (now : Instant) (upholds : Upholds property session) :
    Upholds property (operation.after now session) := by
  apply upholds_after_of_inside opened upholds
  intro inside handle connected
  have stands := Operation.holds_after inside now (fun primitive _ => kept primitive now) connected
    (upholds handle connected)
  exact upholds_of_exists stands.handle

/-- A connected session has a handle with a property that every handle has when it is
opened and no action takes from it. -/
theorem Reachable.upholds {config : Config} {host : B.Host}
    (kept : ∀ primitive : Primitive B, primitive.Keeps property)
    (reachable : Reachable config host session) : Upholds property session :=
  reachable.induction
    (fun operation now _ _ upholds => upholds_after opened kept operation now upholds)
    (upholds_of_disconnected rfl)

end

end Session

end KeyConsole
