import KeyConsole.Proofs.Command.Invocation
import KeyConsole.Proofs.Session.Call
import KeyConsole.Proofs.Step.Breakdown

/-!
# How operations and calls end

An operation that works on the handle answers if the primitive actions that it may run
do.  A call reads its arguments only where there are some, so it breaks down just when the
operation behind it does.
-/

namespace KeyConsole

variable {B : Backend}

/-! ## Operations -/

namespace Primitive

/-- An action on the handle, whatever it results in. -/
def act (now : Instant) : Primitive B → HandleAction B.Handle Unit
  | get key => Step.discard (B.get now key)
  | put key bytes => Step.discard (B.put now key bytes)
  | remove key => Step.discard (B.remove now key)
  | keys => Step.discard (B.keys now)
  | rangeKeys first last limit => Step.discard (B.rangeKeys now first last limit)
  | count => Step.discard (B.count now)
  | clear => Step.discard B.clear
  | databases => Step.discard B.databases
  | createDatabase name => Step.discard (B.createDatabase name)
  | removeDatabase name => Step.discard (B.removeDatabase name)
  | selectDatabase name => Step.discard (B.selectDatabase name)
  | statsText => Step.discard (B.statsText now)
  | expire key seconds => Step.discard (B.expire now key seconds)
  | ttl key => Step.discard (B.ttl now key)
  | extra command _ args => Step.discard (command.run now args)

end Primitive

namespace Operation

/-- An operation as a step of a session, whatever it results in. -/
def run (now : Instant) : Operation B → Session.Action B Unit
  | connect => Session.connect
  | disconnect => Session.disconnect
  | quit => Session.quit
  | reopen config => modify fun session =>
    Session.new config (Step.finalState (Session.disconnect session)).host
  | setInterrupted raised => Session.setInterrupted raised
  | set item => Step.discard (Session.set now item)
  | get key => Step.discard (Session.get now key)
  | delete wanted => Step.discard (Session.delete now wanted)
  | rename key newKey => Session.rename now key newKey
  | scan cursor pattern count => Step.discard (Session.scan now cursor pattern count)
  | keys first last limit => Step.discard (Session.keys now first last limit)
  | size => Step.discard (Session.size now)
  | flush => Session.flush
  | createDatabase name => Step.discard (Session.createDatabase name)
  | removeDatabase name => Step.discard (Session.removeDatabase name)
  | selectDatabase name => Step.discard (Session.selectDatabase now name)
  | currentDatabase => Step.discard Session.currentDatabase
  | currentInfo => Step.discard (Session.currentInfo now)
  | databases => Step.discard Session.databases
  | infoText => Step.discard (Session.infoText now)
  | serverInfo => Step.discard (Session.serverInfo now)
  | expire key seconds => Step.discard (Session.expire now key seconds)
  | ttl key => Step.discard (Session.ttl now key)
  | native primitive => Session.onHandle "NATIVE" (primitive.act now)

end Operation

namespace Session

variable {α : Type} {command : String} {act : HandleAction B.Handle α}

theorem breaksDown_onHandle_iff {session : Session B} :
    Step.BreaksDown (onHandle command act session) ↔
      ∃ handle, session.handle = some handle ∧ Step.BreaksDown (act handle) := by
  cases connected : session.handle with
  | none => simp [onHandle, connected]
  | some handle =>
    simp only [onHandle, connected, Option.some.injEq, exists_eq_left']
    cases act handle with
    | ok result held => simp
    | error halt held => cases halt <;> simp [Halt.map]

theorem answers_onHandle (answers : Step.Answers act) : Step.Answers (onHandle command act) := by
  intro session broken
  obtain ⟨handle, _, broken⟩ := breaksDown_onHandle_iff.1 broken
  exact answers handle broken

theorem answers_requireConnected : Step.Answers (@requireConnected B) := by
  intro session
  unfold requireConnected
  cases session.handle <;> simp

theorem answers_requireTtl {operation : String} : Step.Answers (@requireTtl B operation) :=
  answers_requireConnected.bind fun _ => (Step.answers_pure _).ite (Step.answers_refuse _)

variable {now : Instant}

theorem answers_get {key : Key} (answers : Step.Answers (B.get now key)) :
    Step.Answers (get (B := B) now key) := by
  apply (answers_onHandle answers).bind
  intro found
  cases found with
  | none => exact Step.answers_refuse _
  | some raw => exact Step.answers_pure _

theorem answers_set {item : Item} (answers : Step.Answers (B.put now item.key item.value.encode)) :
    Step.Answers (set (B := B) now item) :=
  (answers_onHandle answers).bind fun _ => Step.answers_pure _

theorem answers_deleteFrom {removed keys : List Key}
    (answers : ∀ key ∈ keys, Step.Answers (B.remove now key)) :
    Step.Answers (deleteFrom (B := B) now removed keys) := by
  induction keys generalizing removed with
  | nil => exact Step.answers_pure _
  | cons key keys ih =>
    apply (answers_onHandle (answers key List.mem_cons_self)).bind
    intro _
    exact ih fun other mem => answers other (List.mem_cons_of_mem _ mem)

theorem answers_delete {keys : List Key}
    (answers : ∀ key ∈ keys, Step.Answers (B.remove now key)) :
    Step.Answers (delete (B := B) now keys) :=
  answers_requireConnected.bind fun _ => answers_deleteFrom answers

theorem answers_rename {key newKey : Key} (answersGet : Step.Answers (B.get now key))
    (answersPut : key ≠ newKey → ∀ bytes, Step.Answers (B.put now newKey bytes))
    (answersRemove : key ≠ newKey → Step.Answers (B.remove now key)) :
    Step.Answers (rename (B := B) now key newKey) := by
  apply answers_requireConnected.bind
  intro _
  apply Step.Answers.ite
  · apply (answers_get answersGet).bind
    intro item
    split
    · exact Step.answers_pure _
    · next different =>
      apply (answers_set (answersPut different _)).bind
      intro _
      have deleted : Step.Answers (delete (B := B) now [key]) :=
        answers_delete (List.forall_mem_singleton.2 (answersRemove different))
      exact deleted.bind fun _ => Step.answers_pure _
  · exact Step.answers_refuse _

theorem answers_currentInfo (answers : Step.Answers (B.count now)) :
    Step.Answers (currentInfo (B := B) now) := by
  apply (answers_onHandle answers).bind
  intro size
  exact (answers_onHandle fun _ => Step.not_breaksDown_ok).bind fun _ => Step.answers_pure _

end Session

namespace Operation

/-- An operation on the handle answers if every action answers that it may run. -/
theorem answers_run {operation : Operation B} {now : Instant} (inside : ¬operation.IsLifecycle)
    (answers : ∀ primitive, operation.MayRun primitive → Step.Answers (primitive.act now)) :
    Step.Answers (operation.run now) := by
  have acts {α : Type} {act : HandleAction B.Handle α} :
      Step.Answers (Step.discard act) → Step.Answers act := Step.answers_discard_iff.1
  have ran {α : Type} {action : Session.Action B α} :
      Step.Answers action → Step.Answers (Step.discard action) := Step.answers_discard_iff.2
  cases operation with
  | connect | disconnect | quit | reopen => exact absurd trivial inside
  | setInterrupted raised => exact Step.answers_modify _
  | set item => exact ran (Session.answers_set (acts (answers (.put _ _) rfl)))
  | get key => exact ran (Session.answers_get (acts (answers (.get key) rfl)))
  | delete wanted =>
    exact ran (Session.answers_delete fun key mem => acts (answers (.remove key) ⟨key, mem, rfl⟩))
  | rename key newKey =>
    refine Session.answers_rename (acts (answers (.get key) (Or.inl rfl))) ?_ ?_
    · exact fun different bytes =>
        acts (answers (.put newKey bytes) (Or.inr ⟨different, Or.inl ⟨bytes, rfl⟩⟩))
    · exact fun different => acts (answers (.remove key) (Or.inr ⟨different, Or.inr rfl⟩))
  | scan cursor pattern count =>
    refine ran ((Step.answers_refuse _).ite ?_)
    exact (Session.answers_onHandle (acts (answers .keys rfl))).bind fun _ => Step.answers_pure _
  | keys first last limit =>
    refine ran (Session.answers_requireConnected.bind fun _ => (Step.answers_pure _).ite ?_)
    exact Session.answers_onHandle (acts (answers (.rangeKeys first last limit) rfl))
  | size => exact ran (Session.answers_onHandle (acts (answers .count rfl)))
  | flush => exact Session.answers_onHandle (acts (answers .clear rfl))
  | createDatabase name =>
    refine ran (Step.Answers.bind ?_ fun _ => Step.answers_pure _)
    exact Session.answers_onHandle (acts (answers (.createDatabase name) rfl))
  | removeDatabase name =>
    refine ran (Step.Answers.bind ?_ fun _ => Step.answers_pure _)
    exact Session.answers_onHandle (acts (answers (.removeDatabase name) rfl))
  | selectDatabase name =>
    refine ran (Step.Answers.bind ?_ fun _ => ?_)
    · exact Session.answers_onHandle (acts (answers (.selectDatabase name) (Or.inl rfl)))
    · exact Session.answers_currentInfo (acts (answers .count (Or.inr rfl)))
  | currentDatabase => exact ran (Session.answers_onHandle fun _ => Step.not_breaksDown_ok)
  | currentInfo => exact ran (Session.answers_currentInfo (acts (answers .count rfl)))
  | databases => exact ran (Session.answers_onHandle (acts (answers .databases rfl)))
  | infoText => exact ran (Session.answers_onHandle (acts (answers .statsText rfl)))
  | serverInfo =>
    refine ran (Step.Answers.bind ?_ fun _ => Step.answers_ofExcept _)
    exact Session.answers_onHandle (acts (answers .statsText rfl))
  | expire key seconds =>
    refine ran (Session.answers_requireTtl.bind fun _ => ?_)
    exact Session.answers_onHandle (acts (answers (.expire key seconds) rfl))
  | ttl key =>
    refine ran (Session.answers_requireTtl.bind fun _ => ?_)
    exact Session.answers_onHandle (acts (answers (.ttl key) rfl))
  | native primitive => exact Session.answers_onHandle (answers primitive rfl)

end Operation

/-! ## Calls -/

namespace Handler

variable {σ α : Type} {operation : Step Error σ α} {next : α → Step Error (Exchange σ) Unit}
  {exchange : Exchange σ}

theorem answers_reply (value : Value) : Step.Answers (reply (σ := σ) value) :=
  Step.answers_modify _

/-- What only talks about a step on the context breaks down just when that step does. -/
theorem breaksDown_onContext_bind_iff (talks : ∀ result, Step.Answers (next result)) :
    Step.BreaksDown ((onContext operation >>= next) exchange) ↔
      Step.BreaksDown (operation exchange.context) := by
  rw [Step.breaksDown_bind_of_answers talks, onContext]
  cases operation exchange.context with
  | ok result context => simp
  | error halt context => cases halt <;> simp

end Handler

namespace Operation

/-- An operation that breaks down, if there is one. -/
def SomeBreaksDown (now : Instant) (session : Session B) (operation : Option (Operation B)) :
    Prop :=
  ∃ meant ∈ operation, Step.BreaksDown (meant.run now session)

variable {now : Instant} {session : Session B}

@[simp]
theorem not_someBreaksDown_none : ¬SomeBreaksDown now session none :=
  nofun

@[simp]
theorem someBreaksDown_some {operation : Operation B} :
    SomeBreaksDown now session (some operation) ↔ Step.BreaksDown (operation.run now session) := by
  simp [SomeBreaksDown]

end Operation

namespace Builtin

open Handler Operation

variable {now : Instant} {exchange : Exchange (Session B)} {args : List Bytes}

/-- A built-in command that does what an operation does and replies. -/
theorem breaksDown_inSession_bind_iff {α : Type} {action : Session.Action B α}
    {value : α → Value} (operation : Operation B)
    (does : Step.discard action = Step.discard (operation.run now)) :
    Step.BreaksDown ((inSession action >>= fun result => reply (value result)) exchange) ↔
      SomeBreaksDown now exchange.context (some operation) := by
  have ran : Step.BreaksDown (action exchange.context) ↔
      Step.BreaksDown (operation.run now exchange.context) := by
    rw [← Step.breaksDown_discard_iff, does, Step.breaksDown_discard_iff]
  rw [someBreaksDown_some, ← ran]
  exact breaksDown_onContext_bind_iff fun _ => answers_reply _

/-- A built-in command that replies with what an operation drops. -/
theorem breaksDown_dropped_bind_iff {α : Type} {action : Session.Action B α}
    {value : α → Value} (operation : Operation B)
    (drops : operation.run now = Step.discard action) :
    Step.BreaksDown ((inSession action >>= fun result => reply (value result)) exchange) ↔
      SomeBreaksDown now exchange.context (some operation) :=
  breaksDown_inSession_bind_iff operation (by rw [drops, Step.discard_discard])

/-- A command that has its arguments breaks down just when its operation does. -/
theorem Invocation.breaksDown_steps_iff {builtin : Builtin} (invocation : Invocation builtin) :
    Step.BreaksDown (invocation.steps now exchange) ↔
      SomeBreaksDown now exchange.context invocation.operation? := by
  cases invocation with
  | info section? =>
    refine (breaksDown_onContext_bind_iff fun text => ?_).trans ?_
    · cases section? with
      | none => exact answers_reply _
      | some name => exact (Step.answers_ofExcept _).bind fun _ => answers_reply _
    · rw [Invocation.operation?, someBreaksDown_some, Operation.run, Step.breaksDown_discard_iff]
  | configGet wanted =>
    refine iff_of_false (Step.Answers.bind (fun _ => Step.not_breaksDown_ok) (fun settled => ?_) _)
      not_someBreaksDown_none
    exact (Step.answers_refuse _).ite (answers_reply _)
  | help args =>
    refine iff_of_false (Step.Answers.bind (Step.answers_ofExcept _) (fun _ => ?_) _)
      not_someBreaksDown_none
    exact answers_reply _
  | rename | flush | quit => exact breaksDown_inSession_bind_iff _ rfl
  | _ => exact breaksDown_dropped_bind_iff _ rfl

/-- A built-in command that is called with a number of arguments that it takes breaks down
just when its operation does. -/
theorem breaksDown_run_iff {builtin : Builtin}
    (accepted : builtin.description.accepts args.length = true) :
    Step.BreaksDown (builtin.run now args exchange) ↔
      SomeBreaksDown now exchange.context (builtin.operation? args) := by
  obtain ⟨read, isRead⟩ := exists_invocation?_of_accepts accepted
  rw [run, runOr, operation?, isRead]
  cases read with
  | error cause => exact iff_of_false (Step.answers_refuse _ _) not_someBreaksDown_none
  | ok invocation => exact invocation.breaksDown_steps_iff

end Builtin

namespace Entry

open Handler Operation

variable {now : Instant} {args : List Bytes} {exchange : Exchange (Session B)}

/-- An entry breaks down just when its operation does. -/
theorem breaksDown_run_iff {entry : Entry B}
    (accepted : entry.command.info.accepts args.length = true) :
    Step.BreaksDown (entry.command.run now args exchange) ↔
      SomeBreaksDown now exchange.context (entry.operation? args) := by
  cases entry with
  | builtin meant => exact Builtin.breaksDown_run_iff accepted
  | extra command own =>
    have acted : Step.BreaksDown
        (Session.onHandle command.info.name (command.run now args) exchange.context) ↔
        Step.BreaksDown (Operation.run now (.native (.extra command own args))
          exchange.context) := by
      rw [Operation.run, Session.breaksDown_onHandle_iff, Session.breaksDown_onHandle_iff]
      simp only [Primitive.act, Step.breaksDown_discard_iff]
    refine Iff.trans ?_ (acted.trans someBreaksDown_some.symm)
    exact breaksDown_onContext_bind_iff fun values => Step.answers_modify _

end Entry

namespace Session

open Operation

variable {now : Instant} {session : Session B}

/-- A call breaks down just when its operation does. -/
theorem breaksDown_runCall_iff {line : String} {argv : List Bytes} :
    Step.BreaksDown (runCall now line argv session) ↔
      SomeBreaksDown now session (B.callOperation? argv) := by
  have executed : Step.BreaksDown (B.commands.execute now argv ⟨session, []⟩) ↔
      SomeBreaksDown now session (B.callOperation? argv) := by
    cases argv with
    | nil =>
      rw [Backend.callOperation?, Backend.find_nil]
      exact iff_of_false (Step.answers_refuse _ _) not_someBreaksDown_none
    | cons first rest =>
      simp only [CommandTable.execute, Backend.find_commands, Backend.callOperation?]
      cases B.find (first :: rest) with
      | none => exact iff_of_false (Step.answers_refuse _ _) not_someBreaksDown_none
      | some found =>
        rcases found with ⟨entry, consumed⟩
        simp only [Option.map_some, Prod.map, id]
        split
        · next accepted => exact Entry.breaksDown_run_iff accepted
        · exact iff_of_false (Step.answers_refuse _ _) not_someBreaksDown_none
  rw [← executed, runCall]
  cases B.commands.execute now argv ⟨session, []⟩ with
  | ok _ exchange => simp
  | error halt exchange => cases halt <;> simp

/-- A line breaks down just when its operation does. -/
theorem breaksDown_runLine_iff {line : String} :
    Step.BreaksDown (runLine now line session) ↔
      SomeBreaksDown now session (B.lineOperation? line) := by
  rw [runLine, Backend.lineOperation?]
  cases CommandLine.tokens line with
  | error cause => exact iff_of_false (Step.answers_refuse _ _) not_someBreaksDown_none
  | ok argv => exact breaksDown_runCall_iff

end Session

end KeyConsole
