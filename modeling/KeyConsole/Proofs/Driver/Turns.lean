import KeyConsole.Proofs.Databases.Unchanged

/-!
# What requests ask for

A request is handled by operations of the session, one after the other; a script asks for
the operations behind its lines.  So a request keeps what these operations keep, and a
driver that is given requests comes to no session that inputs do not lead to.
-/

namespace KeyConsole

variable {B : Backend}

/-- The operation that a request about keys asks for. -/
def KeyRequest.operation : KeyRequest → Operation B
  | load key => .get key
  | create item => .set item
  | delete keys => .delete keys
  | rename key newKey => .rename key newKey
  | changeTtl key seconds => .expire key seconds

/-- The operations that a request may ask for. -/
def Request.MayAsk : Request → Operation B → Prop
  | connect, operation => operation = .connect
  | disconnect, operation => operation = .disconnect
  | execute script, operation =>
    (∃ raised, operation = .setInterrupted raised) ∨
      ∃ line ∈ CommandLine.commands script, operation ∈ B.lineOperation? line
  | loadContent cursor pattern count, operation =>
    operation ∈ B.callOperation? (Session.scanCall cursor pattern count) ∨ operation = .size
  | clear, operation => operation = .flush
  | serverInfo, operation => operation = .serverInfo
  | discovery, operation => operation = .serverInfo ∨ operation = .currentInfo
  | commands, _ => False
  | key request, operation => operation = request.operation

/-! ## What requests keep -/

namespace Running

/-- A step of a request keeps a property of the session. -/
abbrev Keeps {α : Type} (property : Session B → Prop) (action : Action B α) : Prop :=
  Step.Keeps (fun running => property running.session) action

variable {property : Session B → Prop} {α : Type} {clock : Nat → Instant} {raises : Nat → Bool}

theorem keeps_inSession {operation : Session.Action B α}
    (kept : Step.Keeps property operation) : Keeps property (inSession operation) := by
  intro running holds
  have reached := kept running.session holds
  rw [inSession]
  cases ran : operation running.session with
  | ok result session =>
    rw [ran] at reached
    exact reached
  | error halt session =>
    rw [ran] at reached
    exact reached

theorem keeps_emit (event : Event) : Keeps property (emit (B := B) event) :=
  fun _ holds => holds

theorem keeps_checkInterrupt : Keeps property (@checkInterrupt B) := by
  intro running holds
  rw [checkInterrupt]
  split <;> exact holds

/-- The lines of a script keep what each line and a raised flag keep. -/
theorem keeps_runLines {total done : Nat} {lines : List String}
    (kept : ∀ line ∈ lines, ∀ now, Step.Keeps property (Session.runLine now line))
    (keptFlag : Step.Keeps property (Session.setInterrupted true)) :
    Keeps property (runLines clock raises total done lines) := by
  induction lines generalizing done with
  | nil => exact Step.keeps_pure _
  | cons line lines ih =>
    refine keeps_checkInterrupt.bind fun _ => ?_
    refine (keeps_inSession (kept line List.mem_cons_self _)).bind fun result => ?_
    have keptRest : Keeps property (emit (.progress (percent (done + 1) total)) >>= fun _ =>
        runLines clock raises total (done + 1) lines) :=
      (keeps_emit _).bind fun _ => ih fun other mem => kept other (List.mem_cons_of_mem _ mem)
    refine (keeps_emit _).bind fun _ => Step.Keeps.ite (fun _ => ?_) fun _ => keptRest
    exact (keeps_inSession keptFlag).bind fun _ => keptRest

end Running

/-- What an operation keeps is kept if there is none, too. -/
theorem Operation.holds_afterAny {property : Session B → Prop} {now : Instant}
    {meant : Option (Operation B)}
    (kept : ∀ operation ∈ meant, ∀ session, property session →
      property (operation.after now session)) {session : Session B} (holds : property session) :
    property (afterAny now meant session) := by
  cases meant with
  | none => exact holds
  | some operation => exact kept operation rfl session holds

namespace Running

variable {property : Session B → Prop} {clock : Nat → Instant} {raises : Nat → Bool}

/-- A request keeps what every operation keeps that it may ask for. -/
theorem keeps_handle {request : Request}
    (kept : ∀ operation, request.MayAsk operation → ∀ now session, property session →
      property (operation.after now session)) :
    Keeps property (handle clock raises request) := by
  cases request with
  | connect =>
    exact (keeps_inSession (kept .connect rfl 0)).bind fun _ => Step.keeps_pure _
  | disconnect =>
    exact (keeps_inSession (kept .disconnect rfl 0)).bind fun _ => Step.keeps_pure _
  | execute script =>
    have keptFlag (raised : Bool) : Step.Keeps property (Session.setInterrupted raised) :=
      kept (.setInterrupted raised) (Or.inl ⟨raised, rfl⟩) 0
    refine (keeps_inSession (keptFlag false)).bind fun _ => ?_
    refine Step.Keeps.ite (fun _ => Step.keeps_refuse _) fun _ => ?_
    refine (keeps_runLines (fun line mem now => ?_) (keptFlag true)).bind fun _ => Step.keeps_pure _
    intro session holds
    rw [Session.finalState_runLine]
    exact Operation.holds_afterAny
      (fun operation meant => kept operation (Or.inr ⟨line, mem, meant⟩) now) holds
  | loadContent cursor pattern count =>
    apply keeps_inSession
    refine Step.Keeps.bind (fun session holds => ?_) fun result => ?_
    · rw [Session.finalState_runCall]
      exact Operation.holds_afterAny (fun operation meant => kept operation (Or.inl meant) _) holds
    · refine (Step.keeps_ofExcept _).bind fun found => ?_
      have keptSize : Step.Keeps property (Session.size (clock 0)) := kept .size (Or.inr rfl) _
      exact keptSize.bind fun _ => Step.keeps_pure _
  | clear => exact (keeps_inSession (kept .flush rfl 0)).bind fun _ => Step.keeps_pure _
  | serverInfo =>
    exact (keeps_inSession (kept .serverInfo rfl _)).bind fun _ => Step.keeps_pure _
  | discovery =>
    refine (keeps_inSession (kept .serverInfo (Or.inl rfl) _)).bind fun _ => ?_
    exact (keeps_inSession (kept .currentInfo (Or.inr rfl) _)).bind fun _ => Step.keeps_pure _
  | commands => exact Step.keeps_pure _
  | key request =>
    apply keeps_inSession
    cases request with
    | load key => exact Step.Keeps.bind (kept (.get key) rfl _) fun _ => Step.keeps_pure _
    | create item => exact Step.Keeps.bind (kept (.set item) rfl _) fun _ => Step.keeps_pure _
    | delete keys => exact Step.Keeps.bind (kept (.delete keys) rfl _) fun _ => Step.keeps_pure _
    | rename key newKey =>
      exact Step.Keeps.bind (kept (.rename key newKey) rfl _) fun _ => Step.keeps_pure _
    | changeTtl key seconds =>
      exact Step.Keeps.bind (kept (.expire key seconds) rfl _) fun _ => Step.keeps_pure _

end Running

/-! ## Requests of one operation -/

namespace Session

variable {clock : Nat → Instant} {raises : Nat → Bool}

/-- A request that is one operation and answers with one response. -/
def answerWith (response : Response) :
    EStateM.Result (Halt Error) (Session B) Unit → EStateM.Result (Halt Error) (Running B) Response
  | .ok _ after => .ok response ⟨after, []⟩
  | .error halt after => .error halt ⟨after, []⟩

theorem inSession_bind_eq_answerWith {operation : Action B Unit} {response : Response}
    (session : Session B) :
    (Running.inSession operation >>= fun _ => (pure response : Running.Action B Response))
        ⟨session, []⟩
      = answerWith response (operation session) := by
  cases ended : operation session with
  | ok result after =>
    have inside : Running.inSession operation ⟨session, []⟩ = .ok result ⟨after, []⟩ := by
      rw [Running.inSession, ended]
    exact Step.bind_of_ok inside
  | error halt after =>
    apply Step.bind_of_error
    rw [Running.inSession, ended]

theorem handleRequest_connect (session : Session B) :
    session.handleRequest clock raises .connect = answerWith .connected (connect session) :=
  inSession_bind_eq_answerWith session

theorem handleRequest_disconnect (session : Session B) :
    session.handleRequest clock raises .disconnect
      = answerWith .disconnected (disconnect session) :=
  inSession_bind_eq_answerWith session

theorem session_answerWith (response : Response)
    (ended : EStateM.Result (Halt Error) (Session B) Unit) :
    (Step.finalState (answerWith response ended)).session = Step.finalState ended := by
  cases ended <;> rfl

end Session

/-! ## Runs of a driver -/

/-- What a driver can be given: an input for its session, or a request. -/
inductive Turn (B : Backend) where
  | input (now : Instant) (input : Input B)
  | request (clock : Nat → Instant) (raises : Nat → Bool) (request : Request)

namespace Turn

/-- The session after a turn. -/
def after : Turn B → Session B → Session B
  | input now given, session => given.after now session
  | request clock raises asked, session =>
    (Step.finalState (session.handleRequest clock raises asked)).session

/-- The operations that a turn may ask for. -/
def MayAsk : Turn B → Operation B → Prop
  | input _ given, operation => operation ∈ given.operation?
  | request _ _ asked, operation => asked.MayAsk operation

/-- A turn keeps what every operation keeps that it may ask for. -/
theorem keeps (turn : Turn B) (property : Session B → Prop)
    (kept : ∀ operation, turn.MayAsk operation → ∀ now session, property session →
      property (operation.after now session)) {session : Session B} (holds : property session) :
    property (turn.after session) := by
  cases turn with
  | input now given =>
    rw [after, Input.after_eq_afterAny]
    exact Operation.holds_afterAny (fun operation meant => kept operation meant now) holds
  | request clock raises asked => exact Running.keeps_handle kept ⟨session, []⟩ holds

end Turn

namespace Session

/-- A session becomes another by a turn of its driver. -/
def TakesTurn (allowed : Turn B → Prop) (before after : Session B) : Prop :=
  ∃ turn, allowed turn ∧ after = turn.after before

/-- A session becomes another by finitely many turns of its driver. -/
abbrev TakesTurns (allowed : Turn B → Prop) : Session B → Session B → Prop :=
  Relation.ReflTransGen (TakesTurn allowed)

/-- The session of a driver that began with given settings on a given host. -/
def Driven (config : Config) (host : B.Host) (session : Session B) : Prop :=
  TakesTurns (fun _ => True) (new config host) session

/-- Requests lead to no other sessions than inputs. -/
theorem Driven.reachable {config : Config} {host : B.Host} {session : Session B}
    (driven : Driven config host session) : Reachable config host session := by
  induction driven with
  | refl => exact .refl
  | tail _ given reachable =>
    obtain ⟨turn, _, rfl⟩ := given
    refine turn.keeps _ (fun operation _ now middle reachable => ?_) reachable
    exact reachable.tail ⟨now, .operation operation, fun _ _ => trivial, rfl⟩

end Session

end KeyConsole
