import KeyConsole.Proofs.Databases.Apart
import KeyConsole.Proofs.Driver.Turns
import KeyConsole.Proofs.Durability.Reopening

/-!
# Connecting to a file again

However a connection to a file ends, the file holds the tables that the connection left,
and whoever opens it next finds them all.  Only the default table is there again if it had
been removed.  A file that is not to be created is not.
-/

namespace KeyConsole

namespace TableFile

variable {session left : Session backend} {file : OpenFile}

/-! ## The end of a connection -/

/-- A session parts from the file on which it is connected: it is told to disconnect or to
quit, and may have its flag set by what follows in a script, or its driver is dropped for
one with a new session on the same file. -/
inductive Parts (session : Session backend) : Session backend → Prop where
  | told {now : Instant} {input : Input backend}
      (ends : input.operation? = some .disconnect ∨ input.operation? = some .quit) :
      Parts session (input.after now session)
  | asked {clock : Nat → Instant} {raises : Nat → Bool} :
      Parts session (Step.finalState (session.handleRequest clock raises .disconnect)).session
  | flagged {left : Session backend} {raised : Bool} (parts : Parts session left) :
      Parts session (left.withFlag raised)
  | dropped {now : Instant} {config : Config} (stays : StaysOn session (.reopen config)) :
      Parts session ((Operation.reopen config).after now session)
  | replaced {now : Instant} {config : Config} {left : Session backend} (parts : Parts session left)
      (stays : StaysOn session (.reopen config)) :
      Parts session ((Operation.reopen config).after now left)

/-- A session that is not connected is on what a connection has left behind, and its
settings lead to the file of the connection. -/
structure Behind (session : Session backend) (file : OpenFile) (left : Session backend) :
    Prop where
  disconnected : left.handle = none
  host : left.host
    = { session.host with tree := session.host.tree.write file.location file.tables }
  leads : session.host.tree.LeadsTo (left.config.path session.host.home) file.location

theorem behind_disconnect (grounded : IsGrounded session) (connected : session.handle = some file) :
    Behind session file (Step.finalState (Session.disconnect session)) := by
  have reached : Step.finalState (Session.disconnect session)
      = { session with
          host := { session.host with
            tree := session.host.tree.write file.location file.tables }
          handle := none } := by
    simp only [Session.disconnect, connected]
    rfl
  rw [reached]
  exact ⟨rfl, rfl, grounded file connected⟩

/-- However a connection ends, the file holds the tables that it left. -/
theorem Parts.behind (parts : Parts session left) (grounded : IsGrounded session)
    (connected : session.handle = some file) : Behind session file left := by
  have ended := behind_disconnect grounded connected
  have leadsTo {config : Config} (stays : StaysOn session (.reopen config)) :
      session.host.tree.LeadsTo (config.path session.host.home) file.location := by
    obtain ⟨location, leads, leadsToo⟩ := stays
    rwa [leads.unique (grounded file connected)] at leadsToo
  induction parts with
  | told ends =>
    rw [Input.after_eq_afterAny]
    rcases ends with meant | meant
    · rw [meant]
      exact ended
    · rw [meant, ← Session.finalState_quit session] at *
      exact ended
  | asked => rwa [Session.handleRequest_disconnect, Session.session_answerWith]
  | flagged _ behind => exact ⟨behind.disconnected, behind.host, behind.leads⟩
  | dropped stays => exact ⟨rfl, ended.host, leadsTo stays⟩
  | replaced _ stays behind =>
    refine ⟨rfl, ?_, leadsTo stays⟩
    change (Step.finalState (Session.disconnect _)).host = _
    rw [Session.finalState_disconnect_of_disconnected behind.disconnected, behind.host]

/-! ## The next connection -/

/-- What a file holds when it has been opened again: all tables as they were, and the
default one, which is current. -/
structure Restored (file held : OpenFile) : Prop where
  location : held.location = file.location
  current : held.current = defaultTable
  others : ∀ name, name ≠ defaultTable → held.tables.get? name = file.tables.get? name
  default : held.tables.get? defaultTable
    = some ((file.tables.get? defaultTable).getD OrderedMap.empty)

theorem get?_withDefault_of_ne (tables : Tables) {name : String} (other : name ≠ defaultTable) :
    (withDefault tables).get? name = tables.get? name := by
  unfold withDefault
  split
  · rfl
  · rw [OrderedMap.get?_insert, if_neg other]

theorem get?_withDefault_default (tables : Tables) :
    (withDefault tables).get? defaultTable
      = some ((tables.get? defaultTable).getD OrderedMap.empty) := by
  unfold withDefault
  split
  · next found =>
    obtain ⟨table, found⟩ := (OrderedMap.contains_eq_true_iff _).1 found
    rw [found, Option.getD_some]
  · next missing =>
    have absent : tables.get? defaultTable = none := by
      rwa [OrderedMap.contains, Option.not_isSome_iff_eq_none] at missing
    rw [OrderedMap.get?_insert, if_pos rfl, absent, Option.getD_none]

/-- Whoever connects next finds the tables that the connection left. -/
theorem Behind.connect (behind : Behind session file left) :
    ∃ held after, Session.connect left = .ok () after ∧ after.handle = some held ∧
      Restored file held := by
  obtain ⟨disconnected, host, leads⟩ := behind
  have leadsNow : left.host.tree.LeadsTo (left.config.path left.host.home) file.location := by
    rw [host]
    exact leads.write _ _
  have looks : left.host.tree.look file.location = .file file.location file.tables := by
    rw [host]
    exact leads.look_write _
  have opened : backend.acquire left.config left.host = _ := acquire_of_look leadsNow looks
  obtain ⟨after, ran, isHeld⟩ : ∃ after, Session.connect left = .ok () after ∧ after.handle
      = some ⟨left.config.path left.host.home, file.location, withDefault file.tables,
        defaultTable, left.host.sizeAt (left.config.path left.host.home)⟩ := by
    simp only [Session.connect, disconnected, opened]
    exact ⟨_, rfl, rfl⟩
  exact ⟨_, after, ran, isHeld, rfl, rfl, fun name => get?_withDefault_of_ne _,
    get?_withDefault_default _⟩

/-! ## Reading what is there -/

/-- Read the item of a key in a database. -/
def readIn (now : Instant) (database : String) (key : Key) : Session.Action backend Item := do
  let _ ← Session.selectDatabase now database
  Session.get now key

/-- What is read in a database is the table under its name. -/
def reading (database : String) (key : Key) (tables : Tables) : Except Error Item :=
  match tables.get? database with
  | none => .error (.databaseNotFound database)
  | some table =>
    match table.get? key with
    | none => .error (.keyNotFound key.shown)
    | some raw => .ok ⟨key, Value.decode raw⟩

theorem exists_selectDatabase {database : String} {table : Table} (named : database ≠ "")
    (connected : session.handle = some file) (found : file.tables.get? database = some table)
    (now : Instant) :
    ∃ info, Session.selectDatabase now database session
      = .ok info { session with handle := some { file with current := database } } := by
  have there : file.tables.contains database = true :=
    (OrderedMap.contains_eq_true_iff _).2 ⟨table, found⟩
  have selected : selectDatabase database file = .ok () { file with current := database } := by
    simp [selectDatabase, named, there]
  have counted : count { file with current := database }
      = .ok table.size { file with current := database } := by
    simp only [count, fromTable, found]
  have first : Session.onHandle "SELECT" (backend.selectDatabase database) session
      = .ok () { session with handle := some { file with current := database } } :=
    Session.onHandle_eq_ok_iff.2 ⟨file, _, connected, selected, rfl⟩
  obtain ⟨info, second⟩ : ∃ info, Session.currentInfo (B := backend) now
      { session with handle := some { file with current := database } } = .ok info _ :=
    Session.currentInfo_eq_ok rfl counted
  exact ⟨info, (Step.bind_of_ok first).trans second⟩

/-- Reading in a database gives what is under its name. -/
theorem answer?_readIn {database : String} (named : database ≠ "")
    (connected : session.handle = some file) (now : Instant) (key : Key) :
    Step.answer? (readIn now database key session) = some (reading database key file.tables) := by
  cases found : file.tables.get? database with
  | none =>
    have refused : selectDatabase database file
        = .error (.refused (.missingDatabase database)) file := by
      simp [selectDatabase, named, OrderedMap.contains, found]
    have halted : Session.selectDatabase now database session
        = .error (.refused (.databaseNotFound database)) session :=
      Step.bind_of_error (Session.onHandle_of_refused connected refused)
    rw [readIn, Step.bind_of_error halted, reading, found]
    rfl
  | some table =>
    obtain ⟨info, selected⟩ := exists_selectDatabase named connected found now
    have read : Session.onHandle "GET" (backend.get now key)
        { session with handle := some { file with current := database } }
          = .ok (table.get? key)
            { session with handle := some { file with current := database } } := by
      refine Session.onHandle_of_unchanged rfl ?_
      simp only [backend, fromTable, found]
    rw [readIn, Step.bind_of_ok selected, Session.get, Step.bind_of_ok read]
    simp only [reading, found]
    cases table.get? key <;> rfl

/-- The empty name cannot be looked up. -/
theorem answer?_readIn_empty (connected : session.handle = some file) (now : Instant) (key : Key) :
    Step.answer? (readIn now "" key session) = none := by
  have halted : Session.selectDatabase (B := backend) now "" session
      = .error .broken { session with handle := some file } := by
    apply Step.bind_of_error
    simp only [Session.onHandle, connected]
    rfl
  rw [readIn, Step.bind_of_error halted]
  rfl

/-! ## Data survive the connection -/

/-- What is found when a file is connected to again that has been open in a session. -/
structure FoundAgain (session : Session backend) (file : OpenFile) (again : Session backend) :
    Prop where
  handle : ∃ held, again.handle = some held ∧ Restored file held
  current : again.database? = some defaultTable
  /-- The same databases are listed, and the default one. -/
  databases : ∃ names namesAgain, Session.databases session = .ok names session ∧
    Session.databases again = .ok namesAgain again ∧
      ∀ name, name ∈ namesAgain ↔ name ∈ names ∨ name = defaultTable
  /-- Every item is read as before. -/
  items : ∀ now later database key,
    database ≠ defaultTable ∨ file.tables.contains defaultTable = true →
      Step.answer? (readIn later database key again)
        = Step.answer? (readIn now database key session)
  /-- A default database that had been removed is empty. -/
  empty : file.tables.contains defaultTable = false → ∀ now key,
    Step.answer? (readIn now defaultTable key again) = some (.error (.keyNotFound key.shown))

theorem Restored.foundAgain {held : OpenFile} {again : Session backend}
    (restored : Restored file held) (connected : session.handle = some file)
    (connectedAgain : again.handle = some held) : FoundAgain session file again where
  handle := ⟨held, connectedAgain, restored⟩
  current := Session.database?_eq_some_iff.2 ⟨held, connectedAgain, restored.current⟩
  databases := by
    refine ⟨file.tables.keys, held.tables.keys, Session.onHandle_of_unchanged connected rfl,
      Session.onHandle_of_unchanged connectedAgain rfl, fun name => ?_⟩
    rw [OrderedMap.mem_keys_iff, OrderedMap.mem_keys_iff]
    by_cases isDefault : name = defaultTable
    · have there : held.tables.contains name = true := by
        rw [isDefault, OrderedMap.contains, restored.default]
        rfl
      exact iff_of_true there (Or.inr isDefault)
    · rw [OrderedMap.contains, OrderedMap.contains, restored.others name isDefault,
        or_iff_left isDefault]
  items now later database key known := by
    by_cases named : database = ""
    · rw [named, answer?_readIn_empty connected, answer?_readIn_empty connectedAgain]
    · have same : held.tables.get? database = file.tables.get? database := by
        by_cases isDefault : database = defaultTable
        · obtain ⟨table, found⟩ := (OrderedMap.contains_eq_true_iff _).1
            (known.resolve_left (not_not.2 isDefault))
          rw [isDefault, restored.default, found, Option.getD_some]
        · exact restored.others database isDefault
      rw [answer?_readIn named connected, answer?_readIn named connectedAgain, reading, reading,
        same]
  empty missing now key := by
    have absent : file.tables.get? defaultTable = none := by
      rwa [OrderedMap.contains, Option.isSome_eq_false_iff, Option.isNone_iff_eq_none] at missing
    have created : held.tables.get? defaultTable = some OrderedMap.empty := by
      rw [restored.default, absent, Option.getD_none]
    rw [answer?_readIn (by decide) connectedAgain, reading, created]
    rfl

/-- A file that does not exist is not opened if it is not to be created, and nothing is. -/
theorem exists_connect_eq_error (disconnected : session.handle = none)
    (strict : session.config.createIfMissing = false)
    (missing : ∀ location tables, session.host.tree.resolve (session.config.path session.host.home)
      ≠ .ok (.file location tables)) :
    ∃ text, Session.connect session = .error (.refused (.connectionFailed text)) session := by
  have refused : ∃ text, acquire session.config session.host
      = .error (.refused text) session.host := by
    unfold acquire
    cases resolved : session.host.tree.resolve (session.config.path session.host.home) with
    | error fault =>
      simp only [resolved, strict]
      exact ⟨_, rfl⟩
    | ok node =>
      cases node with
      | directory =>
        simp only [resolved]
        exact ⟨_, rfl⟩
      | file location tables => exact absurd resolved (missing location tables)
      | vacant location =>
        simp only [resolved, strict]
        exact ⟨_, rfl⟩
  obtain ⟨text, refused⟩ := refused
  have refused : backend.acquire session.config session.host = _ := refused
  refine ⟨text, ?_⟩
  simp only [Session.connect, disconnected, refused, Halt.map]
  rw [← disconnected]

/-- However a driver parts from a file, whoever connects to the file next finds the same
databases with the same items, the default one added if it is missing; and a file that is
missing is not created unless the settings say so. -/
theorem data_survive_connection :
    (∀ {config : Config} {host : Host} {session left : Session backend} {file : OpenFile},
      session.Driven config host → session.handle = some file → Parts session left →
        ∃ again, Session.connect left = .ok () again ∧ FoundAgain session file again) ∧
      ∀ {session : Session backend}, session.handle = none →
        session.config.createIfMissing = false →
        (∀ location tables, session.host.tree.resolve (session.config.path session.host.home)
          ≠ .ok (.file location tables)) →
          ∃ text, Session.connect session = .error (.refused (.connectionFailed text)) session := by
  refine ⟨fun driven connected parts => ?_, exists_connect_eq_error⟩
  have grounded : IsGrounded _ :=
    Session.Runs.induction (fun operation now _ _ => isGrounded_after operation now)
      driven.reachable (isGrounded_of_disconnected rfl)
  obtain ⟨held, again, ran, connectedAgain, restored⟩ := (parts.behind grounded connected).connect
  exact ⟨again, ran, restored.foundAgain connected connectedAgain⟩

/-- A session on a new file in which a key has been stored in another database, and the
default one has been removed. -/
def moved : Session backend :=
  (Operation.removeDatabase "default").after 4 ((Operation.set ⟨[0x6B], .null⟩).after 3
    ((Operation.selectDatabase "b").after 2 ((Operation.createDatabase "b").after 1 fresh)))

theorem driven_moved : moved.Driven freshConfig emptyHost := by
  have turn (now : Instant) (operation : Operation backend) (session : Session backend) :
      session.TakesTurn (fun _ => True) (operation.after now session) :=
    ⟨.input now (.operation operation), trivial, rfl⟩
  exact .tail (.tail (.tail (.tail (.single (turn 0 .connect _)) (turn 1 (.createDatabase "b") _))
    (turn 2 (.selectDatabase "b") _)) (turn 3 (.set _) _)) (turn 4 (.removeDatabase "default") _)

/-- The stored key is read in the file that has been quit and opened again, where the
default database is empty; and a file that is not there is not opened. -/
theorem data_survive_connection_moved :
    let left := Step.finalState (Session.runLine 5 "QUIT" moved)
    let strict : Session backend := Session.new (Config.forDatabase "/none") emptyHost
    (∃ again, Session.connect left = .ok () again ∧
      Step.answer? (readIn 6 "b" [0x6B] again) = some (.ok ⟨[0x6B], .null⟩) ∧
        Step.answer? (readIn 6 "default" [0x6B] again) = some (.error (.keyNotFound "k"))) ∧
      ∃ text, Session.connect strict = .error (.refused (.connectionFailed text)) strict := by
  intro left strict
  obtain ⟨file, connected⟩ : ∃ file, moved.handle = some file :=
    Option.isSome_iff_exists.1 (by decide +kernel)
  have quits : (Input.line "QUIT" : Input backend).operation? = some .quit := by rfl
  have parts : Parts moved ((Input.line "QUIT").after 5 moved) := .told (.inr quits)
  obtain ⟨again, ran, found⟩ := data_survive_connection.1 driven_moved connected parts
  have stored : Step.answer? (readIn 6 "b" [0x6B] moved) = some (.ok ⟨[0x6B], .null⟩) := by
    rfl
  refine ⟨⟨again, ran, (found.items 6 6 "b" _ (.inl (by decide))).trans stored, ?_⟩, ?_⟩
  · refine found.empty ?_ 6 [0x6B]
    cases connected
    decide +kernel
  · refine data_survive_connection.2 rfl rfl fun location tables resolved => ?_
    have leads : strict.host.tree.LeadsTo _ location := ⟨_, resolved, rfl⟩
    have looks : emptyHost.tree.look location = .file location tables :=
      Except.ok.inj (leads.resolve.symm.trans resolved)
    unfold FileTree.look at looks
    split at looks
    · cases looks
    · cases looks

end TableFile

end KeyConsole
