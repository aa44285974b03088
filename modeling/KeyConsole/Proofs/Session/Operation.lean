import KeyConsole.Proofs.Step
import KeyConsole.Session

/-!
# Operations and the primitive actions they run

An operation is anything that can be asked of a session.  All but a few reach
the backend only through its primitive actions on the handle, and
`Operation.MayRun` says which ones.  What these actions keep of the handle, the
operation keeps, and it leaves the settings and the host as they are.
-/

namespace KeyConsole

variable {B : Backend}

/-! ## Primitive actions -/

/-- The actions on the handle of an open connection. -/
inductive Primitive (B : Backend) where
  | get (key : Key)
  | put (key : Key) (bytes : Bytes)
  | remove (key : Key)
  | keys
  | rangeKeys (first last : Key) (limit : Nat)
  | count
  | clear
  | databases
  | createDatabase (name : String)
  | removeDatabase (name : String)
  | selectDatabase (name : String)
  | statsText
  | expire (key : Key) (seconds : Nat)
  | ttl (key : Key)
  /-- A command that only this backend has. -/
  | extra (command : HandleCommand B.Handle) (own : command ∈ B.extraCommands)
      (args : List Bytes)

namespace Primitive

/-- The handle after an action, however the action ends. -/
def after (now : Instant) : Primitive B → B.Handle → B.Handle
  | get key, handle => Step.finalState (B.get now key handle)
  | put key bytes, handle => Step.finalState (B.put now key bytes handle)
  | remove key, handle => Step.finalState (B.remove now key handle)
  | keys, handle => Step.finalState (B.keys now handle)
  | rangeKeys first last limit, handle =>
    Step.finalState (B.rangeKeys now first last limit handle)
  | count, handle => Step.finalState (B.count now handle)
  | clear, handle => Step.finalState (B.clear handle)
  | databases, handle => Step.finalState (B.databases handle)
  | createDatabase name, handle => Step.finalState (B.createDatabase name handle)
  | removeDatabase name, handle => Step.finalState (B.removeDatabase name handle)
  | selectDatabase name, handle => Step.finalState (B.selectDatabase name handle)
  | statsText, handle => Step.finalState (B.statsText now handle)
  | expire key seconds, handle => Step.finalState (B.expire now key seconds handle)
  | ttl key, handle => Step.finalState (B.ttl now key handle)
  | extra command _ args, handle => Step.finalState (command.run now args handle)

/-- The handle that an action leaves has a property if the one before had it. -/
def Keeps (property : B.Handle → Prop) (primitive : Primitive B) : Prop :=
  ∀ now handle, property handle → property (primitive.after now handle)

/-- The handle that an action leaves at an instant has a property if the one before had it. -/
def KeepsAt (now : Instant) (property : B.Handle → Prop) (primitive : Primitive B) : Prop :=
  ∀ handle, property handle → property (primitive.after now handle)

end Primitive

/-! ## Operations -/

/-- What can be asked of a session. -/
inductive Operation (B : Backend) where
  | connect
  | disconnect
  | quit
  /-- Give up the session for a new one on what it leaves behind. -/
  | reopen (config : Config)
  | setInterrupted (raised : Bool)
  | set (item : Item)
  | get (key : Key)
  | delete (keys : List Key)
  | rename (key newKey : Key)
  | scan (cursor : Nat) (pattern : String) (count : Nat)
  | keys (first last : Key) (limit : Nat)
  | size
  | flush
  | createDatabase (name : String)
  | removeDatabase (name : String)
  | selectDatabase (name : String)
  | currentDatabase
  | currentInfo
  | databases
  | infoText
  | serverInfo
  | expire (key : Key) (seconds : Nat)
  | ttl (key : Key)
  /-- Act on the handle directly. -/
  | native (primitive : Primitive B)

namespace Operation

/-- The session after an operation, however the operation ends. -/
def after (now : Instant) : Operation B → Session B → Session B
  | connect, session => Step.finalState (Session.connect session)
  | disconnect, session => Step.finalState (Session.disconnect session)
  | quit, session => Step.finalState (Session.quit session)
  | reopen config, session =>
    Session.new config (Step.finalState (Session.disconnect session)).host
  | setInterrupted raised, session => Step.finalState (Session.setInterrupted raised session)
  | set item, session => Step.finalState (Session.set now item session)
  | get key, session => Step.finalState (Session.get now key session)
  | delete wanted, session => Step.finalState (Session.delete now wanted session)
  | rename key newKey, session => Step.finalState (Session.rename now key newKey session)
  | scan cursor pattern count, session =>
    Step.finalState (Session.scan now cursor pattern count session)
  | keys first last limit, session =>
    Step.finalState (Session.keys now first last limit session)
  | size, session => Step.finalState (Session.size now session)
  | flush, session => Step.finalState (Session.flush session)
  | createDatabase name, session => Step.finalState (Session.createDatabase name session)
  | removeDatabase name, session => Step.finalState (Session.removeDatabase name session)
  | selectDatabase name, session => Step.finalState (Session.selectDatabase now name session)
  | currentDatabase, session => Step.finalState (Session.currentDatabase session)
  | currentInfo, session => Step.finalState (Session.currentInfo now session)
  | databases, session => Step.finalState (Session.databases session)
  | infoText, session => Step.finalState (Session.infoText now session)
  | serverInfo, session => Step.finalState (Session.serverInfo now session)
  | expire key seconds, session => Step.finalState (Session.expire now key seconds session)
  | ttl key, session => Step.finalState (Session.ttl now key session)
  | native primitive, session =>
    { session with handle := session.handle.map (primitive.after now) }

/-- Whether an operation opens or closes a connection. -/
def IsLifecycle : Operation B → Prop
  | connect | disconnect | quit | reopen _ => True
  | _ => False

/-- The primitive actions that an operation may run on the handle. -/
def MayRun : Operation B → Primitive B → Prop
  | connect, _ | disconnect, _ | quit, _ | reopen _, _ | setInterrupted _, _
  | currentDatabase, _ => False
  | set item, primitive => primitive = .put item.key item.value.encode
  | get key, primitive => primitive = .get key
  | delete wanted, primitive => ∃ key ∈ wanted, primitive = .remove key
  | rename key newKey, primitive =>
    primitive = .get key ∨
      key ≠ newKey ∧ ((∃ bytes, primitive = .put newKey bytes) ∨ primitive = .remove key)
  | scan _ _ _, primitive => primitive = .keys
  | keys first last limit, primitive => primitive = .rangeKeys first last limit
  | size, primitive | currentInfo, primitive => primitive = .count
  | flush, primitive => primitive = .clear
  | createDatabase name, primitive => primitive = .createDatabase name
  | removeDatabase name, primitive => primitive = .removeDatabase name
  | selectDatabase name, primitive => primitive = .selectDatabase name ∨ primitive = .count
  | databases, primitive => primitive = .databases
  | infoText, primitive | serverInfo, primitive => primitive = .statsText
  | expire key seconds, primitive => primitive = .expire key seconds
  | ttl key, primitive => primitive = .ttl key
  | native meant, primitive => primitive = meant

end Operation

/-! ## Opening and closing -/

namespace Session

theorem finalState_connect_of_connected {session : Session B} {handle : B.Handle}
    (connected : session.handle = some handle) :
    Step.finalState (connect session) = session := by
  simp only [connect, connected]
  rfl

theorem finalState_disconnect_of_disconnected {session : Session B}
    (disconnected : session.handle = none) : Step.finalState (disconnect session) = session := by
  simp only [disconnect, disconnected]
  rfl

theorem handle_finalState_disconnect (session : Session B) :
    (Step.finalState (disconnect session)).handle = none := by
  unfold disconnect
  split
  · next disconnected => exact disconnected
  · split <;> rfl

/-- Quitting differs from disconnecting in its answer only. -/
theorem finalState_quit (session : Session B) :
    Step.finalState (quit session) = Step.finalState (disconnect session) := by
  rw [quit, Step.finalState_bind, requireConnected]
  cases connected : session.handle with
  | none => exact (finalState_disconnect_of_disconnected connected).symm
  | some handle => rfl

/-! ## Actions on the handle of a connected session -/

section

variable {B : Backend} {α : Type} {now : Instant} {session : Session B} {handle held : B.Handle}
  (connected : session.handle = some handle)

include connected

theorem onHandle_of_ok {act : HandleAction B.Handle α} {result : α} (command : String)
    (ran : act handle = .ok result held) :
    onHandle command act session = .ok result { session with handle := some held } :=
  onHandle_eq_ok_iff.2 ⟨handle, held, connected, ran, rfl⟩

theorem onHandle_of_error {act : HandleAction B.Handle α} {cause : Refusal} (command : String)
    (ran : act handle = .error (.refused cause) held) :
    onHandle command act session
      = .error (.refused (cause.error command)) { session with handle := some held } := by
  simp only [onHandle, connected, ran]
  rfl

theorem requireTtl_of_capable (capable : B.capabilities.ttl = true) (operation : String) :
    requireTtl operation session = .ok () session := by
  rw [requireTtl, Step.bind_of_ok (requireConnected_of_connected connected), if_pos capable]
  rfl

theorem get_of_read {key : Key} {raw : Bytes} (read : B.get now key handle = .ok (some raw) held) :
    get now key session = .ok ⟨key, Value.decode raw⟩ { session with handle := some held } :=
  Step.bind_of_ok (onHandle_of_ok connected "GET" read)

end

end Session

/-! ## What operations keep -/

namespace Session

/-- A session with given settings on a given host, whose handle, if there is
one, has a property. -/
structure Stands (config : Config) (host : B.Host) (property : Option B.Handle → Prop)
    (session : Session B) : Prop where
  config : session.config = config
  host : session.host = host
  handle : property session.handle

variable {config : Config} {host : B.Host} {property : Option B.Handle → Prop} {α : Type}

theorem keeps_requireConnected :
    Step.Keeps (Stands config host property) (@requireConnected B) := by
  intro session stands
  unfold requireConnected
  cases session.handle <;> exact stands

theorem keeps_onHandle (command : String) {act : HandleAction B.Handle α}
    (kept : Step.Keeps (fun handle => property (some handle)) act) :
    Step.Keeps (Stands config host property) (onHandle command act) := by
  intro session stands
  cases connected : session.handle with
  | none =>
    rw [onHandle_of_disconnected command act connected]
    exact stands
  | some handle =>
    have holds : property (some handle) := by
      rw [← connected]
      exact stands.handle
    rw [finalState_onHandle command act connected]
    exact ⟨stands.config, stands.host, kept handle holds⟩

variable {now : Instant}

theorem keeps_get {key : Key}
    (kept : Step.Keeps (fun handle => property (some handle)) (B.get now key)) :
    Step.Keeps (Stands config host property) (get now key) := by
  apply (keeps_onHandle "GET" kept).bind
  intro found
  cases found with
  | none => exact Step.keeps_refuse _
  | some raw => exact Step.keeps_pure _

theorem keeps_set {item : Item}
    (kept : Step.Keeps (fun handle => property (some handle))
      (B.put now item.key item.value.encode)) :
    Step.Keeps (Stands config host property) (set now item) :=
  (keeps_onHandle "SET" kept).bind fun _ => Step.keeps_pure _

theorem keeps_deleteFrom {removed keys : List Key}
    (kept : ∀ key ∈ keys,
      Step.Keeps (fun handle => property (some handle)) (B.remove now key)) :
    Step.Keeps (Stands config host property) (deleteFrom now removed keys) := by
  induction keys generalizing removed with
  | nil => exact Step.keeps_pure _
  | cons key keys ih =>
    apply (keeps_onHandle "DEL" (kept key List.mem_cons_self)).bind
    intro _
    exact ih fun other mem => kept other (List.mem_cons_of_mem _ mem)

theorem keeps_delete {keys : List Key}
    (kept : ∀ key ∈ keys,
      Step.Keeps (fun handle => property (some handle)) (B.remove now key)) :
    Step.Keeps (Stands config host property) (delete now keys) :=
  keeps_requireConnected.bind fun _ => keeps_deleteFrom kept

theorem keeps_rename {key newKey : Key}
    (keptGet : Step.Keeps (fun handle => property (some handle)) (B.get now key))
    (keptPut : key ≠ newKey → ∀ bytes,
      Step.Keeps (fun handle => property (some handle)) (B.put now newKey bytes))
    (keptRemove : key ≠ newKey →
      Step.Keeps (fun handle => property (some handle)) (B.remove now key)) :
    Step.Keeps (Stands config host property) (rename now key newKey) := by
  apply keeps_requireConnected.bind
  intro _
  apply Step.Keeps.ite
  · intro _
    apply (keeps_get keptGet).bind
    intro item
    apply Step.Keeps.ite
    · exact fun _ => Step.keeps_pure _
    · intro different
      apply (keeps_set (keptPut different _)).bind
      intro _
      have deleted : Step.Keeps (Stands config host property) (delete now [key]) := by
        apply keeps_delete
        intro other mem
        rw [List.mem_singleton.1 mem]
        exact keptRemove different
      exact deleted.bind fun _ => Step.keeps_pure _
  · exact fun _ => Step.keeps_refuse _

theorem keeps_requireTtl {operation : String} :
    Step.Keeps (Stands config host property) (@requireTtl B operation) := by
  apply keeps_requireConnected.bind
  intro _
  apply Step.Keeps.ite
  · exact fun _ => Step.keeps_pure _
  · exact fun _ => Step.keeps_refuse _

theorem keeps_currentDatabase :
    Step.Keeps (Stands config host property) (@currentDatabase B) :=
  keeps_onHandle "DATABASES" fun _ holds => holds

theorem keeps_currentInfo
    (kept : Step.Keeps (fun handle => property (some handle)) (B.count now)) :
    Step.Keeps (Stands config host property) (currentInfo now) :=
  (keeps_onHandle "DBKCOUNT" kept).bind fun _ =>
    keeps_currentDatabase.bind fun _ => Step.keeps_pure _

end Session

namespace Operation

variable {config : Config} {host : B.Host} {property : Option B.Handle → Prop}

/-- What every primitive action of an operation keeps of the handle, the operation
keeps, and it changes neither the settings nor the host. -/
theorem stands_after {operation : Operation B} (inside : ¬operation.IsLifecycle)
    (now : Instant) (kept : ∀ primitive, operation.MayRun primitive →
      primitive.KeepsAt now fun handle => property (some handle))
    {session : Session B} (stands : session.Stands config host property) :
    (operation.after now session).Stands config host property := by
  cases operation with
  | connect | disconnect | quit | reopen => exact absurd trivial inside
  | setInterrupted raised => exact ⟨stands.config, stands.host, stands.handle⟩
  | set item => exact Session.keeps_set (kept (.put _ _) rfl) session stands
  | get key => exact Session.keeps_get (kept (.get key) rfl) session stands
  | delete keys =>
    refine Session.keeps_delete (fun key mem => ?_) session stands
    exact kept (.remove key) ⟨key, mem, rfl⟩
  | rename key newKey =>
    refine Session.keeps_rename ?_ (fun different bytes => ?_) (fun different => ?_) session stands
    · exact kept (.get key) (Or.inl rfl)
    · exact kept (.put newKey bytes) (Or.inr ⟨different, Or.inl ⟨bytes, rfl⟩⟩)
    · exact kept (.remove key) (Or.inr ⟨different, Or.inr rfl⟩)
  | scan cursor pattern count =>
    apply Step.Keeps.ite _ _ session stands
    · exact fun _ => Step.keeps_refuse _
    · intro _
      exact (Session.keeps_onHandle "SCAN" (kept .keys rfl)).bind fun _ => Step.keeps_pure _
  | keys first last limit =>
    refine Session.keeps_requireConnected.bind (fun _ => ?_) session stands
    apply Step.Keeps.ite
    · exact fun _ => Step.keeps_pure _
    · exact fun _ => Session.keeps_onHandle "KEYS" (kept (.rangeKeys first last limit) rfl)
  | size => exact Session.keeps_onHandle "DBKCOUNT" (kept .count rfl) session stands
  | flush => exact Session.keeps_onHandle "FLUSHDB" (kept .clear rfl) session stands
  | createDatabase name =>
    refine Step.Keeps.bind ?_ (fun _ => Step.keeps_pure _) session stands
    exact Session.keeps_onHandle "CREATEDB" (kept (.createDatabase name) rfl)
  | removeDatabase name =>
    refine Step.Keeps.bind ?_ (fun _ => Step.keeps_pure _) session stands
    exact Session.keeps_onHandle "REMOVEDB" (kept (.removeDatabase name) rfl)
  | selectDatabase name =>
    refine Step.Keeps.bind ?_ (fun _ => ?_) session stands
    · exact Session.keeps_onHandle "SELECT" (kept (.selectDatabase name) (Or.inl rfl))
    · exact Session.keeps_currentInfo (kept .count (Or.inr rfl))
  | currentDatabase => exact Session.keeps_currentDatabase session stands
  | currentInfo => exact Session.keeps_currentInfo (kept .count rfl) session stands
  | databases =>
    exact Session.keeps_onHandle "DATABASES" (kept .databases rfl) session stands
  | infoText => exact Session.keeps_onHandle "INFO" (kept .statsText rfl) session stands
  | serverInfo =>
    refine Step.Keeps.bind ?_ (fun _ => Step.keeps_ofExcept _) session stands
    exact Session.keeps_onHandle "INFO" (kept .statsText rfl)
  | expire key seconds =>
    refine Session.keeps_requireTtl.bind (fun _ => ?_) session stands
    exact Session.keeps_onHandle "EXPIRE" (kept (.expire key seconds) rfl)
  | ttl key =>
    refine Session.keeps_requireTtl.bind (fun _ => ?_) session stands
    exact Session.keeps_onHandle "TTL" (kept (.ttl key) rfl)
  | native primitive =>
    refine ⟨stands.config, stands.host, ?_⟩
    cases connected : session.handle with
    | none =>
      have holds := stands.handle
      rw [connected] at holds
      simpa [after, connected] using holds
    | some handle =>
      have holds := stands.handle
      rw [connected] at holds
      simpa [after, connected] using kept primitive rfl handle holds

/-- An operation on a connected session leaves it connected. -/
theorem holds_after {operation : Operation B} (inside : ¬operation.IsLifecycle)
    {property : B.Handle → Prop} (now : Instant)
    (kept : ∀ primitive, operation.MayRun primitive → primitive.KeepsAt now property)
    {session : Session B} {handle : B.Handle} (connected : session.handle = some handle)
    (holds : property handle) :
    (operation.after now session).Stands session.config session.host
      fun handle => ∃ held, handle = some held ∧ property held := by
  refine stands_after inside now (fun primitive mayRun handle => ?_) ?_
  · rintro ⟨held, isHeld, holds⟩
    cases isHeld
    exact ⟨_, rfl, kept primitive mayRun handle holds⟩
  · exact ⟨rfl, rfl, handle, connected, holds⟩

/-- An operation leaves a session that is not connected as it is. -/
theorem stands_after_of_disconnected {operation : Operation B} (inside : ¬operation.IsLifecycle)
    (now : Instant) {session : Session B} (disconnected : session.handle = none) :
    (operation.after now session).Stands session.config session.host (· = none) :=
  stands_after inside now (fun _ _ _ impossible => nomatch impossible) ⟨rfl, rfl, disconnected⟩

end Operation

end KeyConsole
