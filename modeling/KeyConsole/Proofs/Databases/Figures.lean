import KeyConsole.Proofs.Databases.Memory
import KeyConsole.Proofs.ServerInfo.RoundTrip
import KeyConsole.Proofs.Storage.Refinement

/-!
# Figures of a session in memory

Whatever a session in memory has been through, each of its databases holds the slots of
one map and has counted them.  So the figures agree with what the session tells at the
same instant, as far as their text can be read back: that depends on the name of the
current database, which may be any text that is not blank.
-/

namespace KeyConsole.Memory

open KeyConsole.Storage

/-! ## Databases that are counted -/

/-- Every database holds the slots of a map and has counted them. -/
def Counted (store : Store) : Prop :=
  ∀ name engine, store.databases.get? name = some engine → ∃ map, engine.Represents map

variable {store : Store} {engine : Engine} {now : Instant} {α : Type}

theorem Counted.insert {map : OrderedMap Bytes Slot} (counted : Counted store) (name : String)
    (represents : engine.Represents map) :
    Counted { store with databases := store.databases.insert name engine } := by
  intro other found isFound
  rw [OrderedMap.get?_insert] at isFound
  split at isFound
  · cases isFound
    exact ⟨map, represents⟩
  · exact counted other found isFound

theorem keeps_counted_onEngine {act : Engine → α × Engine}
    (kept : ∀ engine map, engine.Represents map → ∃ map, (act engine).2.Represents map) :
    Step.Keeps Counted (onEngine act) := by
  apply keeps_onEngine_of_replace
  intro store engine counted here
  obtain ⟨map, represents⟩ := counted _ engine here
  obtain ⟨after, representsAfter⟩ := kept engine map represents
  exact counted.insert _ representsAfter

theorem keeps_counted_fromEngine (read : Engine → α) : Step.Keeps Counted (fromEngine read) :=
  keeps_counted_onEngine fun _ map represents => ⟨map, represents⟩

theorem keeps_counted_count : Step.Keeps Counted (count now) := by
  apply keeps_counted_onEngine
  exact fun _ _ represents => ⟨_, represents.cleanupExpired now⟩

theorem keeps_counted_clear :
    Step.Keeps Counted (onEngine fun engine => ((), engine.flush)) := by
  apply keeps_counted_onEngine
  exact fun engine _ _ => ⟨OrderedMap.empty, engine.represents_flush⟩

theorem keeps_counted_ttl (key : Key) : Step.Keeps Counted (onEngine (·.ttl now key)) := by
  apply keeps_counted_onEngine
  exact fun _ _ represents => ⟨_, represents.liveSlot now key⟩

theorem keeps_counted_expire (key : Key) (seconds : Nat) :
    Step.Keeps Counted (expire now key seconds) := by
  apply keeps_expire_of_replace
  intro store engine found after counted here expired
  obtain ⟨map, represents⟩ := counted _ engine here
  have performed : engine.perform now (.expire key (seconds * nanosPerSecond))
      = some (.flag found, after) := congrArg (Option.map _) expired
  obtain ⟨mapAfter, representsAfter⟩ := Engine.represents_of_perform represents performed
  exact counted.insert _ representsAfter

theorem keeps_counted_createDatabase (name : String) : Step.Keeps Counted (createDatabase name) :=
  keeps_createDatabase_of_insert fun _ counted _ =>
    counted.insert name (Engine.represents_empty spread)

theorem keeps_counted_removeDatabase (name : String) :
    Step.Keeps Counted (removeDatabase name) := by
  apply keeps_removeDatabase_of_erase
  intro store counted other engine found
  rw [OrderedMap.get?_erase] at found
  split at found
  · cases found
  · exact counted other engine found

theorem keeps_counted_selectDatabase (name : String) :
    Step.Keeps Counted (selectDatabase name) := by
  intro store counted
  unfold selectDatabase
  split <;> exact counted

/-- No action makes a database lose count. -/
theorem keeps_counted (primitive : Primitive backend) : primitive.Keeps Counted := by
  intro now
  cases primitive with
  | get key => exact keeps_counted_onEngine fun _ _ represents => ⟨_, represents.get now key⟩
  | put key raw =>
    exact (keeps_counted_onEngine fun _ _ represents => ⟨_, represents.set now key raw⟩).bind
      fun _ => Step.keeps_pure _
  | remove key => exact keeps_counted_onEngine fun _ _ represents => ⟨_, represents.delete now key⟩
  | keys => exact keeps_counted_fromEngine _
  | rangeKeys first last limit =>
    refine Step.Keeps.ite (fun _ => Step.keeps_pure _) fun _ => ?_
    exact (keeps_counted_fromEngine _).bind fun _ => Step.keeps_pure _
  | count => exact keeps_counted_count
  | clear => exact keeps_counted_clear
  | databases => exact fun _ counted => counted
  | createDatabase name => exact keeps_counted_createDatabase name
  | removeDatabase name => exact keeps_counted_removeDatabase name
  | selectDatabase name => exact keeps_counted_selectDatabase name
  | statsText => exact (keeps_counted_fromEngine _).bind fun _ _ counted => counted
  | expire key seconds => exact keeps_counted_expire key seconds
  | ttl key => exact (keeps_counted_ttl key).bind fun _ => Step.keeps_pure _
  | extra command own args =>
    obtain rfl := List.mem_singleton.1 own
    exact (keeps_counted_onEngine fun _ _ represents => ⟨_, represents.cleanupExpired now⟩).bind
      fun _ => Step.keeps_pure _

theorem counted_of_acquire {config : Config} {host after : backend.Host} {store : backend.Handle}
    (acquired : backend.acquire config host = .ok store after) : Counted store := by
  obtain ⟨only, rfl⟩ := exists_eq_of_acquire acquired
  intro name engine found
  rw [OrderedMap.get?_singleton] at found
  split at found
  · cases found
    exact ⟨_, Engine.represents_empty spread⟩
  · cases found

/-! ## What the current database tells -/

/-- Counting the items drops the expired ones and so counts those that are live. -/
theorem count_eq_ok (counted : Counted store)
    (here : store.databases.get? store.current = some engine) :
    ∃ after, count now store = .ok (engine.figures now).liveKeys after := by
  obtain ⟨map, represents⟩ := counted _ engine here
  have size : (engine.cleanupExpired now).2.len = (engine.figures now).liveKeys :=
    (represents.cleanupExpired now).counted.trans (represents.liveEntries_perm now).length_eq.symm
  have ran := onEngine_of_get? (fun engine => ((engine.cleanupExpired now).2.len,
    (engine.cleanupExpired now).2)) here
  rw [size] at ran
  exact ⟨_, ran⟩

/-- Reading the current engine changes nothing. -/
theorem fromEngine_eq_ok (read : Engine → α)
    (here : store.databases.get? store.current = some engine) :
    fromEngine read store = .ok (read engine) store := by
  have ran := onEngine_of_get? (fun engine => (read engine, engine)) here
  rwa [store.databases.insert_of_get?_eq_some here] at ran

/-- Writing the figures changes nothing. -/
theorem statsText_eq_ok (here : store.databases.get? store.current = some engine) :
    statsText now store = .ok (serverInfo store (engine.figures now)).toText store :=
  Step.bind_of_ok (fromEngine_eq_ok (·.figures now) here)

/-- Every number in the figures of a store fits in a word. -/
def CountsFit (now : Instant) (store : Store) : Prop :=
  ∀ engine, store.databases.get? store.current = some engine →
    ∀ count ∈ (serverInfo store (engine.figures now)).counts, count < Text.wordBound

end KeyConsole.Memory

namespace KeyConsole.Session

open KeyConsole.Memory

variable {session : Session backend} {store : Store} {engine : Storage.Engine} {now : Instant}

/-! ## What a session tells of itself -/

/-- What figures say of the databases is what the session itself tells at an instant. -/
structure Describes (now : Instant) (session : Session backend) (figures : MemoryFigures) :
    Prop where
  currentDatabase : Step.answer? (currentDatabase session) = some (.ok figures.currentDatabase)
  databases : ∃ names, Step.answer? (databases session) = some (.ok names) ∧
    figures.databases = names.length
  keys : Step.answer? (size now session) = some (.ok figures.keys)

theorem answer?_currentDatabase (connected : session.handle = some store) :
    Step.answer? (currentDatabase session) = some (.ok store.current) := by
  have told : currentDatabase session = .ok store.current session :=
    onHandle_of_unchanged connected rfl
  rw [told]
  rfl

theorem answer?_databases (connected : session.handle = some store) :
    Step.answer? (databases session) = some (.ok store.databases.keys) := by
  have told : databases session = .ok store.databases.keys session :=
    onHandle_of_unchanged connected rfl
  rw [told]
  rfl

theorem answer?_size (connected : session.handle = some store) (counted : Counted store)
    (here : store.databases.get? store.current = some engine) :
    Step.answer? (size now session) = some (.ok (engine.figures now).liveKeys) := by
  obtain ⟨after, counts⟩ := count_eq_ok counted here
  have told : size now session = .ok _ _ :=
    onHandle_eq_ok_iff.2 ⟨store, after, connected, counts, rfl⟩
  rw [told]
  rfl

/-! ## Figures of a session -/

/-- What is read back from the text of the figures. -/
def readBack (now : Instant) (store : Store) (engine : Storage.Engine) : Except Error ServerInfo :=
  ServerInfo.ofText .memory (Memory.serverInfo store (engine.figures now)).toText

/-- The figures are read back just when the name of the current database keeps to a line,
and then they describe the databases. -/
theorem readBack_describes_iff (connected : session.handle = some store)
    (counted : Counted store) (here : store.databases.get? store.current = some engine)
    (fit : CountsFit now store) :
    (∃ figures, readBack now store engine = .ok (.memory figures) ∧
        Describes now session figures) ↔ Text.OnLine store.current := by
  constructor
  · rintro ⟨figures, read, describes⟩
    -- What has been read keeps to a line, and it is said to be the name.
    have same : figures.currentDatabase = store.current := by
      have told := describes.currentDatabase
      rw [answer?_currentDatabase connected] at told
      simpa using told.symm
    rw [← same]
    exact ServerInfo.onLine_of_ofText read _ List.mem_cons_self
  · intro onLine
    have read : readBack now store engine
        = .ok (Memory.serverInfo store (engine.figures now)) :=
      @ServerInfo.ofText_toText (Memory.serverInfo store (engine.figures now))
        (List.forall_mem_singleton.2 onLine) (fit engine here)
    refine ⟨_, read, ?_⟩
    constructor
    · exact answer?_currentDatabase connected
    · exact ⟨_, answer?_databases connected, (List.length_map _).symm⟩
    · exact answer?_size connected counted here

theorem serverInfo_eq (connected : session.handle = some store)
    (here : store.databases.get? store.current = some engine) :
    serverInfo now session = Step.ofExcept (readBack now store engine) session := by
  have told : infoText now session = _ := onHandle_of_unchanged connected (statsText_eq_ok here)
  exact Step.bind_of_ok told

theorem answer?_ofExcept {ε σ α : Type} (checked : Except ε α) (state : σ) :
    Step.answer? (Step.ofExcept checked state) = some checked := by
  cases checked <;> rfl

/-- The server is described to a discovery as it is by its figures alone. -/
theorem answer?_discovery {clock : Nat → Instant} {raises : Nat → Bool}
    (connected : session.handle = some store) (counted : Counted store)
    (here : store.databases.get? store.current = some engine) :
    ∃ database, Step.answer? (session.handleRequest clock raises .discovery)
      = some ((readBack (clock 0) store engine).map fun server => .discovery server database) := by
  obtain ⟨after, counts⟩ := count_eq_ok counted here
  have described : ∃ info, currentInfo (clock 0) session = .ok info _ :=
    currentInfo_eq_ok connected counts
  obtain ⟨database, described⟩ := described
  refine ⟨database, ?_⟩
  have asked : serverInfo (clock 0) session = _ := serverInfo_eq connected here
  have begun : Running.inSession (serverInfo (clock 0)) ⟨session, []⟩
      = Step.ofExcept (readBack (clock 0) store engine) ⟨session, []⟩ := by
    rw [Running.inSession, asked]
    cases readBack (clock 0) store engine <;> rfl
  have ended : Running.inSession (currentInfo (clock 0)) ⟨session, []⟩
      = .ok database ⟨{ session with handle := some after }, []⟩ := by
    rw [Running.inSession, described]
  simp only [handleRequest, Running.handle]
  cases read : readBack (clock 0) store engine with
  | error cause =>
    rw [read] at begun
    rw [Step.bind_of_error begun]
    rfl
  | ok server =>
    rw [read] at begun
    rw [Step.bind_of_ok begun, Step.bind_of_ok ended]
    rfl

/-- Whatever a connected session in memory has been through, its figures are answered and
describe the databases, to a request for them and to a discovery, just when the name of
the current database keeps to a line. -/
theorem serverInfo_describes_iff {config : Config} {host : backend.Host}
    (reachable : Reachable config host session) (connected : session.handle = some store)
    (clock : Nat → Instant) (raises : Nat → Bool) (fit : CountsFit (clock 0) store) :
    ((∃ figures, Step.answer? (serverInfo (clock 0) session) = some (.ok (.memory figures)) ∧
        Describes (clock 0) session figures) ↔ Text.OnLine store.current) ∧
      ((∃ figures database, Step.answer? (session.handleRequest clock raises .discovery)
            = some (.ok (.discovery (.memory figures) database)) ∧
          Describes (clock 0) session figures) ↔ Text.OnLine store.current) := by
  obtain ⟨engine, here⟩ := isPresent_iff.1 (reachable.isPresent Memory.separates connected)
  have counted : Counted store :=
    reachable.upholds (fun _ _ _ _ acquired => counted_of_acquire acquired) keeps_counted store
      connected
  have described := readBack_describes_iff connected counted here fit
  obtain ⟨database, discovered⟩ := @answer?_discovery _ _ _ clock raises connected counted here
  constructor
  · rw [← described, serverInfo_eq connected here, answer?_ofExcept]
    simp
  · rw [← described, discovered]
    cases readBack (clock 0) store engine with
    | error cause => simp [Except.map]
    | ok server => simp [Except.map]

/-- A session in memory that has created a database and made it current. -/
def inDatabase (name : String) : Session backend :=
  let opened : Session backend :=
    ⟨Config.forDatabase "default", (), some ⟨OrderedMap.singleton "default"
      (Storage.Engine.empty Storage.spread), "default"⟩, false⟩
  let created := Operation.after 0 (.createDatabase name) opened
  Operation.after 0 (.selectDatabase name) created

theorem reachable_inDatabase (name : String) :
    Reachable (Config.forDatabase "default") () (inDatabase name) :=
  ((Relation.ReflTransGen.single ⟨0, .operation .connect, fun _ _ => trivial, rfl⟩).tail
    ⟨0, .operation (.createDatabase name), fun _ _ => trivial, rfl⟩).tail
    ⟨0, .operation (.selectDatabase name), fun _ _ => trivial, rfl⟩

/-- A name may hold colons, spaces and hashes. -/
theorem serverInfo_describes_iff_colon :
    (∃ figures, Step.answer? (serverInfo 0 (inDatabase "a: #b")) = some (.ok (.memory figures)) ∧
        Describes 0 (inDatabase "a: #b") figures) ∧
      ∃ figures database, Step.answer? ((inDatabase "a: #b").handleRequest (fun _ => 0)
            (fun _ => false) .discovery) = some (.ok (.discovery (.memory figures) database)) ∧
          Describes 0 (inDatabase "a: #b") figures := by
  obtain ⟨store, connected⟩ : ∃ store : Store, (inDatabase "a: #b").handle = some store := ⟨_, rfl⟩
  have current : (inDatabase "a: #b").handle.map Store.current = some "a: #b" := rfl
  have shown : (inDatabase "a: #b").handle.map (fun store : Store =>
      (store.databases.get? store.current).map fun engine =>
        (Memory.serverInfo store (engine.figures 0)).counts)
      = some (some [2, 0, 0, 0, 0, 0, 0]) := by decide +kernel
  rw [connected, Option.map_some, Option.some.injEq] at current shown
  have onLine : Text.OnLine store.current := by
    rw [current]
    decide
  have fit : CountsFit 0 store := by
    intro engine here
    rw [here, Option.map_some, Option.some.injEq] at shown
    rw [shown]
    decide
  obtain ⟨asked, discovered⟩ := serverInfo_describes_iff (reachable_inDatabase "a: #b") connected
    (fun _ => 0) (fun _ => false) fit
  exact ⟨asked.2 onLine, discovered.2 onLine⟩

/-- The figures of a session cannot always be read: a line feed in the name of the current
database begins a line that may stand for another figure. -/
theorem serverInfo_refused_of_lineFeed :
    ¬∀ (config : Config) (session : Session backend), Reachable config () session →
      session.isConnected = true → ∃ figures,
        Step.answer? (serverInfo 0 session) = some (.ok (.memory figures)) ∧
          Describes 0 session figures := by
  intro always
  obtain ⟨figures, answered, _⟩ := always _ _ (reachable_inDatabase "a\nkeys:x") rfl
  have refused : ((Step.answer? (serverInfo 0 (inDatabase "a\nkeys:x"))).bind
      Except.toOption).isSome = false := by decide +kernel
  rw [answered] at refused
  cases refused

end KeyConsole.Session
