import KeyConsole.Proofs.Durability.Memory
import KeyConsole.Proofs.Durability.Reopening
import KeyConsole.Proofs.Value.StoredForm
import KeyConsole.Registry

/-!
# Items survive unrelated work

Once an item is stored, it is read back from the same database after any run that
spares it.  In memory the item lives as long as the connection and never gets a
deadline; in a file it also survives the end of connections and sessions.
-/

namespace KeyConsole

/-! ## Storing and reading in a session -/

namespace Session

variable {B : Backend} {now : Instant} {session after : Session B}

theorem put_of_set {item returned : Item} (stored : set now item session = .ok returned after) :
    ∃ handle held, session.handle = some handle ∧
      B.put now item.key item.value.encode handle = .ok () held ∧
        after = { session with handle := some held } := by
  obtain ⟨_, between, ran, isAfter⟩ := Step.bind_eq_ok_iff.1 stored
  cases isAfter
  exact onHandle_eq_ok_iff.1 ran

theorem ttl_of_read {key : Key} {seconds : Int} {handle held : B.Handle}
    (capable : B.capabilities.ttl = true) (connected : session.handle = some handle)
    (read : B.ttl now key handle = .ok seconds held) :
    ttl now key session = .ok seconds { session with handle := some held } := by
  rw [ttl, Step.bind_of_ok (requireTtl_of_capable connected capable "TTL")]
  exact onHandle_of_ok connected "TTL" read

end Session

/-! ## Runs that spare an item -/

/-- An operation does not close the connection, which would discard the databases. -/
def Memory.StaysOpen : Operation Memory.backend → Prop
  | .disconnect | .quit | .reopen _ => False
  | _ => True

/-- An operation does not leave the databases behind: in memory the connection stays
open, and in a file a new session is one on the same file. -/
def Operation.Stays : (kind : BackendKind) → Operation kind.backend → Session kind.backend → Prop
  | .memory, operation, _ => Memory.StaysOpen operation
  | .tableFile, operation, session => TableFile.StaysOn session operation

/-- An operation that is unrelated to the item of a key in a database. -/
def Operation.Unrelated (kind : BackendKind) (database : String) (key : Key)
    (operation : Operation kind.backend) (session : Session kind.backend) : Prop :=
  (∀ current, session.database? = some current → operation.Spares database key current) ∧
    operation.Stays kind session

variable {config : Config} {database : String} {key : Key} {value : Value} {raw : Bytes}

namespace Memory

/-- A session is connected, and bytes are stored without a deadline. -/
def Survives (database : String) (key : Key) (raw : Bytes) (session : Session backend) : Prop :=
  ∃ store : Store, session.handle = some store ∧ store.Holds database key raw

/-- What is in the custody of actions that spare an item outlives unrelated operations. -/
theorem exists_handle_after {stored : Store → Prop} {now : Instant}
    (custody : CustodyAt backend now (fun current => Primitive.Spares database key current) stored)
    {session : Session backend} {store : Store} (connected : session.handle = some store)
    {operation : Operation backend}
    (unrelated : operation.Unrelated .memory database key session) (holds : stored store) :
    ∃ held, (operation.after now session).handle = some held ∧ stored held := by
  rcases unrelated with ⟨spares, stays⟩
  by_cases inside : operation.IsLifecycle
  · cases operation with
    | connect =>
      change ∃ held, (Step.finalState (Session.connect session)).handle = some held ∧ stored held
      rw [Session.finalState_connect_of_connected connected]
      exact ⟨store, connected, holds⟩
    | disconnect | quit | reopen => cases stays
    | _ => cases inside
  · have spared := spares _ (Session.database?_eq_some_iff.2 ⟨store, connected, rfl⟩)
    have allows (primitive : Primitive backend) (mayRun : operation.MayRun primitive) :=
      Operation.spares_of_mayRun spared mayRun
    exact (custody.after inside connected allows holds).handle

theorem Survives.after {session : Session backend} (survives : Survives database key raw session)
    {operation : Operation backend}
    (unrelated : operation.Unrelated .memory database key session) (now : Instant) :
    Survives database key raw (operation.after now session) := by
  rcases survives with ⟨store, connected, holds⟩
  exact exists_handle_after ((custody database key raw).at now) connected unrelated holds

theorem Survives.read {session : Session backend}
    (survives : Survives database key value.encode session)
    (selected : session.database? = some database) (storable : value.IsStorable)
    (now : Instant) :
    (∃ after, Session.get now key session = .ok ⟨key, value⟩ after) ∧
      ∃ after, Session.ttl now key session = .ok (-1) after := by
  rcases survives with ⟨store, connected, holds⟩
  obtain ⟨other, isStore, rfl⟩ := Session.database?_eq_some_iff.1 selected
  cases connected.symm.trans isStore
  obtain ⟨held, read⟩ := get_of_holds holds now
  obtain ⟨heldToo, left⟩ := ttl_of_holds holds now
  have got := Session.get_of_read connected read
  rw [Value.decode_encode storable] at got
  exact ⟨⟨_, got⟩, _, Session.ttl_of_read rfl connected left⟩

end Memory

namespace TableFile

variable {location : Location}

theorem Survives.read {session : Session backend}
    (survives : Survives location database key value.encode session)
    (selected : session.database? = some database) (storable : value.IsStorable)
    (now : Instant) : ∃ after, Session.get now key session = .ok ⟨key, value⟩ after := by
  obtain ⟨file, connected, rfl⟩ := Session.database?_eq_some_iff.1 selected
  obtain ⟨held, read⟩ := get_of_holds (survives.opened file connected) now
  have got := Session.get_of_read connected read
  rw [Value.decode_encode storable] at got
  exact ⟨_, got⟩

/-- What a connected session has stored is in the file to which its settings lead. -/
theorem survives_of_put {session : Session backend} {now : Instant} {file held : OpenFile}
    (grounded : IsGrounded session) (connected : session.handle = some file)
    (put : backend.put now key raw file = .ok () held) :
    Survives file.location file.current key raw { session with handle := some held } where
  leads := grounded file connected
  opened other isOther := by
    cases isOther
    exact holds_of_put put
  closed impossible := nomatch impossible

end TableFile

/-- Once an item has been stored while a database was current, it is read back whenever
that database is current again, after any run of operations, calls and lines that are
unrelated to it; in memory it also never expires. -/
theorem Session.get_of_set {kind : BackendKind} {host : kind.backend.Host}
    {session stored last : Session kind.backend} {now : Instant} {returned : Item}
    (reachable : session.Reachable config host) (storable : value.IsStorable)
    (selected : session.database? = some database)
    (set : Session.set now ⟨key, value⟩ session = .ok returned stored)
    (run : Session.Runs (Operation.Unrelated kind database key) stored last)
    (selectedAgain : last.database? = some database) (later : Instant) :
    (∃ after, Session.get later key last = .ok ⟨key, value⟩ after) ∧
      (kind = .memory → ∃ after, Session.ttl later key last = .ok (-1) after) := by
  obtain ⟨handle, held, connected, put, rfl⟩ := Session.put_of_set set
  obtain ⟨_, isHandle, rfl⟩ := Session.database?_eq_some_iff.1 selected
  cases connected.symm.trans isHandle
  cases kind with
  | memory =>
    have survives : Memory.Survives _ key value.encode last :=
      run.induction (fun operation now _ unrelated survives => survives.after unrelated now)
        ⟨held, rfl, Memory.holds_of_put put⟩
    obtain ⟨got, left⟩ := survives.read selectedAgain storable later
    exact ⟨got, fun _ => left⟩
  | tableFile =>
    have grounded : TableFile.IsGrounded session :=
      Session.Runs.induction (fun operation now _ _ => TableFile.isGrounded_after operation now)
        reachable (TableFile.isGrounded_of_disconnected rfl)
    have start := TableFile.survives_of_put grounded connected put
    have survives := run.induction
      (fun operation now middle unrelated survives => survives.after
        (fun file isFile => unrelated.1 _ (Session.database?_eq_some_iff.2 ⟨file, isFile, rfl⟩))
        unrelated.2 now) start
    exact ⟨survives.read selectedAgain storable later, nofun⟩

/-- An item in a new file is read back after another key has been deleted and the file
has been closed and opened again. -/
theorem Session.get_of_set_opened_again :
    let config := { Config.forDatabase "/items" with createIfMissing := true }
    let host : TableFile.Host := ⟨none, FileTree.ofDirectories [] [], fun _ _ => none⟩
    let session : Session TableFile.backend := Operation.connect.after 0 (Session.new config host)
    let stored := (Operation.set ⟨[0x6B], .null⟩).after 1 session
    let deleted := (Operation.delete [[0x6C]]).after 2 stored
    let last := Operation.connect.after 4 (Operation.disconnect.after 3 deleted)
    ∃ after, Session.get 5 [0x6B] last = .ok ⟨[0x6B], .null⟩ after := by
  intro config host session stored deleted last
  have reachable : Session.Reachable config host session :=
    .single ⟨0, .operation .connect, fun _ _ => trivial, rfl⟩
  obtain ⟨file, connected⟩ : ∃ file, session.handle = some file :=
    Option.isSome_iff_exists.1 (by decide +kernel)
  obtain ⟨after, set⟩ : ∃ after, Session.set 1 ⟨[0x6B], .null⟩ session = .ok ⟨[0x6B], .null⟩ after :=
    ⟨_, Step.bind_eq_ok_iff.2
      ⟨_, _, Session.onHandle_eq_ok_iff.2 ⟨file, _, connected, rfl, rfl⟩, rfl⟩⟩
  have isStored : stored = after := congrArg Step.finalState set
  have unrelated : Session.Runs (Operation.Unrelated .tableFile "default" [0x6B]) stored last := by
    refine .head (b := deleted) ⟨2, .operation (.delete [[0x6C]]), ?_, rfl⟩ (.head
      (b := Operation.disconnect.after 3 deleted) ⟨3, .operation .disconnect, ?_, rfl⟩
      (.single ⟨4, .operation .connect, ?_, rfl⟩))
    · rintro _ isDelete
      cases isDelete
      exact ⟨fun _ _ _ => by decide, trivial⟩
    · rintro _ isDisconnect
      cases isDisconnect
      exact ⟨fun _ _ => trivial, trivial⟩
    · rintro _ isConnect
      cases isConnect
      exact ⟨fun _ _ => trivial, trivial⟩
  exact (@Session.get_of_set config "default" [0x6B] .null .tableFile host session stored last 1
    ⟨[0x6B], .null⟩ reachable .null (by decide +kernel) (isStored ▸ set) unrelated (by decide +kernel) 5).1

end KeyConsole
