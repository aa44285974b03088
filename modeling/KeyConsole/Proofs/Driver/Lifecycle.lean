import KeyConsole.Backend.Guarded
import KeyConsole.Proofs.Driver.Turns
import KeyConsole.Proofs.Session.Outcome

/-!
# The life of a connection

A session is connected from the moment its backend opens to the moment it is told to
disconnect, and no failure leaves it in between: what cannot be opened is not connected,
and what cannot be closed is given up.  Without a connection operations refuse before they
look at anything else, and nothing but connecting brings the connection back.
-/

namespace KeyConsole

variable {B : Backend}

/-! ## Operations without a connection -/

namespace Operation

/-- An operation can do nothing without a connection. -/
def NeedsConnection : Operation B → Prop
  | connect | disconnect | reopen _ | setInterrupted _ => False
  | scan _ _ count => 1 ≤ count
  | _ => True

theorem run_of_disconnected {operation : Operation B} (needs : operation.NeedsConnection)
    (now : Instant) {session : Session B} (disconnected : session.handle = none) :
    operation.run now session = .error (.refused .notConnected) session := by
  have required : Session.requireConnected session = .error (.refused .notConnected) session := by
    simp only [Session.requireConnected, disconnected]
  have unhandled {α : Type} {command : String} {act : HandleAction B.Handle α} :
      Session.onHandle command act session = .error (.refused .notConnected) session :=
    Session.onHandle_of_disconnected command act disconnected
  cases operation with
  | connect | disconnect | reopen | setInterrupted => cases needs
  | quit | rename => exact Step.bind_of_error required
  | flush | native => exact unhandled
  | get | set | createDatabase | removeDatabase | selectDatabase | currentInfo | serverInfo =>
    exact Step.discard_eq_error_iff.2 (Step.bind_of_error unhandled)
  | delete | keys => exact Step.discard_eq_error_iff.2 (Step.bind_of_error required)
  | scan cursor pattern count =>
    apply Step.discard_eq_error_iff.2
    rw [Session.scan, if_neg (Nat.ne_of_gt needs)]
    exact Step.bind_of_error unhandled
  | size | currentDatabase | databases | infoText => exact Step.discard_eq_error_iff.2 unhandled
  | expire | ttl =>
    exact Step.discard_eq_error_iff.2 (Step.bind_of_error (Step.bind_of_error required))

/-- Every operation but connecting leaves a session without a connection. -/
theorem handle_after_of_disconnected {operation : Operation B} (other : operation ≠ .connect)
    (now : Instant) {session : Session B} (disconnected : session.handle = none) :
    (operation.after now session).handle = none := by
  by_cases inside : operation.IsLifecycle
  · cases operation with
    | connect => exact absurd rfl other
    | disconnect => exact Session.handle_finalState_disconnect session
    | quit =>
      change (Step.finalState (Session.quit session)).handle = none
      rw [Session.finalState_quit]
      exact Session.handle_finalState_disconnect session
    | reopen config => rfl
    | _ => cases inside
  · exact (stands_after_of_disconnected inside now disconnected).handle

end Operation

/-! ## Requests without a connection -/

namespace Request

/-- What a request that does not connect may ask for leaves a session without a connection
as it is, up to the flag that scripts set. -/
theorem after_of_mayAsk {request : Request} {operation : Operation B}
    (asks : request.MayAsk operation) (other : request ≠ .connect) (now : Instant)
    {session : Session B} (disconnected : session.handle = none) :
    operation.after now session = session ∨
      ∃ script raised, request = .execute script ∧
        operation.after now session = session.withFlag raised := by
  have ofCall {argv : List Bytes} (meant : B.callOperation? argv = some operation) :
      operation.after now session = session := by
    have same : Step.finalState (Session.runCall now "" argv session) = session :=
      Session.finalState_runCall_of_disconnected disconnected "" argv
    rwa [Session.finalState_runCall, meant] at same
  have ofOperation {meant : Operation B} (isMeant : operation = meant)
      (inside : ¬meant.IsLifecycle) (leaves : meant.LeavesFlag) :
      operation.after now session = session := by
    rw [isMeant]
    exact Operation.after_of_disconnected inside leaves disconnected
  cases request with
  | connect => exact absurd rfl other
  | disconnect =>
    cases asks
    exact Or.inl (Session.finalState_disconnect_of_disconnected disconnected)
  | execute script =>
    rcases asks with ⟨raised, rfl⟩ | ⟨line, _, meant⟩
    · exact Or.inr ⟨script, raised, rfl, rfl⟩
    · obtain ⟨argv, meant⟩ := Backend.exists_call_of_lineOperation? meant
      exact Or.inl (ofCall meant)
  | loadContent cursor pattern count =>
    rcases asks with meant | isSize
    · exact Or.inl (ofCall meant)
    · exact Or.inl (ofOperation isSize id trivial)
  | clear | serverInfo => exact Or.inl (ofOperation asks id trivial)
  | discovery =>
    rcases asks with isMeant | isMeant <;> exact Or.inl (ofOperation isMeant id trivial)
  | commands => cases asks
  | key asked =>
    cases asked <;> exact Or.inl (ofOperation asks id trivial)

end Request

/-- A turn connects, or tries to. -/
def Turn.Connects : Turn B → Prop
  | .input _ given => given.operation? = some .connect
  | .request _ _ asked => asked = .connect

/-- Every turn but one that connects leaves a session without a connection. -/
theorem Turn.handle_after_of_disconnected {turn : Turn B} (other : ¬turn.Connects)
    {session : Session B} (disconnected : session.handle = none) :
    (turn.after session).handle = none := by
  refine turn.keeps (·.handle = none) (fun operation asks now between closed => ?_) disconnected
  cases turn with
  | input _ given =>
    refine Operation.handle_after_of_disconnected ?_ now closed
    rintro rfl
    exact other asks
  | request _ _ asked =>
    rcases Request.after_of_mayAsk asks other now closed with same | ⟨_, _, _, same⟩
    · rw [same]
      exact closed
    · rw [same]
      exact closed

namespace Session

/-- The lines of a script leave a session without a connection as it is, up to the flag. -/
theorem runLines_of_disconnected {session : Session B} (disconnected : session.handle = none)
    (clock : Nat → Instant) (raises : Nat → Bool) (total done : Nat) (lines : List String)
    (events : List Event) :
    ∃ raised, (Step.finalState (Running.runLines clock raises total done lines
      ⟨session, events⟩)).session = session.withFlag raised := by
  have kept : Running.Keeps (fun between => ∃ raised, between = session.withFlag raised)
      (Running.runLines clock raises total done lines) := by
    apply Running.keeps_runLines
    · rintro line _ now _ ⟨raised, rfl⟩
      refine ⟨raised, ?_⟩
      rw [runLine, Step.finalState_bind]
      cases CommandLine.tokens line with
      | error cause => rfl
      | ok argv =>
        have closed : (session.withFlag raised).handle = none := disconnected
        exact finalState_runCall_of_disconnected closed line argv
    · rintro _ ⟨raised, rfl⟩
      exact ⟨true, rfl⟩
  exact kept ⟨session, events⟩ ⟨session.interrupted, (withFlag_eq_self rfl).symm⟩

/-! ## The life of a connection -/

/-- How the connection of a session begins and ends, and what happens without one. -/
structure Lifecycle (session : Session B) : Prop where
  /-- Connecting again changes nothing. -/
  connect_connected : ∀ {handle}, session.handle = some handle →
    connect session = .ok () session ∧
      ∀ clock raises,
        session.handleRequest clock raises .connect = .ok .connected ⟨session, []⟩
  connect_opened : ∀ {handle host}, session.handle = none →
    B.acquire session.config session.host = .ok handle host →
      connect session = .ok () { session with host := host, handle := some handle }
  /-- A backend that does not open is told as an error, and there is no connection. -/
  connect_failed : ∀ {cause host}, session.handle = none →
    B.acquire session.config session.host = .error (.refused cause) host →
      connect session
          = .error (.refused (.connectionFailed cause)) { session with host := host } ∧
        ∀ clock raises, session.handleRequest clock raises .connect
          = .error (.refused (.connectionFailed cause)) ⟨{ session with host := host }, []⟩
  /-- There is no connection after disconnecting, whatever closing comes to. -/
  closed : (Step.finalState (disconnect session)).handle = none ∧
    (Step.finalState (quit session)).handle = none ∧
      ∀ clock raises,
        (Step.finalState (session.handleRequest clock raises .disconnect)).session.handle = none
  /-- A backend that does not close is told as an error. -/
  disconnect_failed : ∀ {handle cause host}, session.handle = some handle →
    B.release handle session.host = .error (.refused cause) host →
      disconnect session = .error (.refused (cause.error "DISCONNECT"))
          { session with host := host, handle := none } ∧
        quit session = disconnect session
  disconnect_disconnected : session.handle = none →
    disconnect session = .ok () session ∧
      ∀ clock raises,
        session.handleRequest clock raises .disconnect = .ok .disconnected ⟨session, []⟩
  /-- Without a connection operations refuse, whatever they are given. -/
  refused : session.handle = none → ∀ operation : Operation B, operation.NeedsConnection →
    ∀ now, operation.run now session = .error (.refused .notConnected) session
  /-- Without a connection requests change nothing but the flag, and that only by a script. -/
  unchanged : session.handle = none → ∀ clock raises request, request ≠ .connect →
    (Step.finalState (session.handleRequest clock raises request)).session = session ∨
      ∃ script raised, request = .execute script ∧
        (Step.finalState (session.handleRequest clock raises request)).session
          = session.withFlag raised
  /-- Wherever in a script the connection ends, the lines behind do not bring it back. -/
  runLines : session.handle = none → ∀ clock raises total done lines events,
    ∃ raised, (Step.finalState (Running.runLines clock raises total done lines
      ⟨session, events⟩)).session = session.withFlag raised
  /-- Without a connection there is none until a turn connects. -/
  stays : session.handle = none → ∀ {last},
    TakesTurns (fun turn => ¬turn.Connects) session last → last.handle = none

/-- Every session has a connection from opening to closing, even if these fail, and without
one nothing happens until it is told to connect. -/
theorem lifecycle (session : Session B) : session.Lifecycle where
  connect_connected connected := by
    have same : connect session = .ok () session := by simp only [connect, connected]
    refine ⟨same, fun clock raises => ?_⟩
    rw [handleRequest_connect, same]
    rfl
  connect_opened disconnected opened := by simp only [connect, disconnected, opened]
  connect_failed {cause host} disconnected failed := by
    have told : connect session
        = .error (.refused (.connectionFailed cause)) { session with host := host } := by
      simp only [connect, disconnected, failed, Halt.map]
    refine ⟨told, fun clock raises => ?_⟩
    rw [handleRequest_connect, told]
    rfl
  closed := by
    have closed := handle_finalState_disconnect session
    refine ⟨closed, ?_, fun clock raises => ?_⟩
    · rwa [finalState_quit]
    · rwa [handleRequest_disconnect, session_answerWith]
  disconnect_failed connected failed := by
    constructor
    · simp only [disconnect, connected, failed, Halt.map]
    · exact Step.bind_of_ok (requireConnected_of_connected connected)
  disconnect_disconnected disconnected := by
    have same : disconnect session = .ok () session := by simp only [disconnect, disconnected]
    refine ⟨same, fun clock raises => ?_⟩
    rw [handleRequest_disconnect, same]
    rfl
  refused disconnected _ needs now := Operation.run_of_disconnected needs now disconnected
  unchanged disconnected clock raises request other := by
    refine Turn.keeps (.request clock raises request)
      (fun between => between = session ∨
        ∃ script raised, request = .execute script ∧ between = session.withFlag raised)
      (fun operation asks now between alike => ?_) (Or.inl rfl)
    have closed : between.handle = none := by
      rcases alike with rfl | ⟨_, _, _, rfl⟩ <;> exact disconnected
    rcases Request.after_of_mayAsk asks other now closed with
      same | ⟨script, raised, isScript, same⟩
    · rwa [same]
    · refine Or.inr ⟨script, raised, isScript, same.trans ?_⟩
      rcases alike with rfl | ⟨_, _, _, rfl⟩ <;> rfl
  runLines := runLines_of_disconnected
  stays disconnected _ run := by
    induction run with
    | refl => exact disconnected
    | tail _ given closed =>
      obtain ⟨turn, other, rfl⟩ := given
      exact turn.handle_after_of_disconnected other closed

/-- A connection that cannot be closed is given up when it is quit, and then even an empty
list of keys is not deleted; one that cannot be opened does not begin. -/
theorem lifecycle_guarded :
    let backend := Guarded.backend ⟨true, false⟩
    let items : Guarded.Items := OrderedMap.singleton (Guarded.marked "noclose") []
    let session : Session backend := ⟨Config.forDatabase "main", (), some items, false⟩
    let left : Session backend := { session with handle := none }
    let barred : Session backend := new (Config.forDatabase "refuse") ()
    quit session = .error (.refused (.native 99 "DISCONNECT: refused")) left ∧
      delete 0 [] left = .error (.refused .notConnected) left ∧
        connect barred = .error (.refused (.connectionFailed "refused")) barred := by
  intro backend items session left barred
  have failed : backend.release items session.host
      = .error (.refused (.other 99 Guarded.refusedText)) () := rfl
  obtain ⟨disconnected, quits⟩ := (lifecycle session).disconnect_failed rfl failed
  refine ⟨quits.trans disconnected, ?_, ((lifecycle barred).connect_failed rfl rfl).1⟩
  exact Step.discard_eq_error_iff.1 ((lifecycle left).refused rfl (.delete []) trivial 0)

end Session

end KeyConsole
