import KeyConsole.Proofs.Backend.Paths
import KeyConsole.Proofs.Durability.TableFile
import KeyConsole.Proofs.Session.Run

/-!
# Files that are opened again

A session that is connected works on the file that its settings lead to.  Closing
it leaves the tables there, and the next connection by such settings takes them
up again.
-/

namespace KeyConsole

namespace TableFile

/-! ## Opening and closing -/

/-- The tables at the end of a path, none if a file is to be created there. -/
def tablesAt : FileTree.Node Tables → Tables
  | .file _ tables => tables
  | _ => OrderedMap.empty

/-- Opening takes up the tables where the path leads. -/
theorem acquire_eq_ok {config : Config} {host after : Host} {file : OpenFile}
    (opened : acquire config host = .ok file after) :
    host.tree.LeadsTo (config.path host.home) file.location ∧
      file.tables = withDefault (tablesAt (host.tree.look file.location)) ∧
      after = { host with tree := host.tree.write file.location file.tables } := by
  unfold acquire at opened
  cases resolved : host.tree.resolve (config.path host.home) with
  | error fault =>
    simp only [resolved] at opened
    split at opened <;> cases opened
  | ok node =>
    have leads {location : Location} (isLocation : node.location? = some location) :
        host.tree.LeadsTo (config.path host.home) location := ⟨node, resolved, isLocation⟩
    have looks {location : Location} (isLocation : node.location? = some location) :
        host.tree.look location = node :=
      Except.ok.inj ((leads isLocation).resolve.symm.trans resolved)
    cases node with
    | directory =>
      simp only [resolved] at opened
      cases opened
    | file location tables =>
      simp only [resolved] at opened
      cases opened
      exact ⟨leads rfl, by rw [looks rfl, tablesAt], rfl⟩
    | vacant location =>
      simp only [resolved] at opened
      split at opened
      · cases opened
        refine ⟨leads rfl, ?_, rfl⟩
        rw [looks rfl]
        rfl
      · cases opened

/-- A file that is where the path leads can be opened. -/
theorem acquire_of_look {config : Config} {host : Host} {location : Location} {tables : Tables}
    (leads : host.tree.LeadsTo (config.path host.home) location)
    (looks : host.tree.look location = .file location tables) :
    acquire config host
      = .ok ⟨config.path host.home, location, withDefault tables, defaultTable,
          host.sizeAt (config.path host.home)⟩
        { host with tree := host.tree.write location (withDefault tables) } := by
  unfold acquire
  simp only [leads.resolve, looks]

variable {location : Location} {database : String} {key : Key} {raw : Bytes}

/-- Creating the default table does not touch other tables. -/
theorem Holds.withDefault {tables : Tables} (holds : Holds database key raw tables) :
    Holds database key raw (withDefault tables) := by
  unfold TableFile.withDefault
  split
  · exact holds
  · next missing =>
    rcases holds with ⟨table, found, stored⟩
    have other : database ≠ defaultTable := by
      rintro rfl
      exact missing ((OrderedMap.contains_eq_true_iff _).2 ⟨table, found⟩)
    exact ⟨table, by rw [OrderedMap.get?_insert, if_neg other, found], stored⟩

/-! ## Sessions on a file -/

/-- A session whose settings lead to the file on which it is connected. -/
def IsGrounded (session : Session backend) : Prop :=
  ∀ file : OpenFile, session.handle = some file →
    session.host.tree.LeadsTo (session.config.path session.host.home) file.location

theorem isGrounded_of_disconnected {session : Session backend}
    (disconnected : session.handle = none) : IsGrounded session :=
  fun _ connected => nomatch disconnected.symm.trans connected

theorem isGrounded_connect {session : Session backend} (grounded : IsGrounded session) :
    IsGrounded (Step.finalState (Session.connect session)) := by
  cases connected : session.handle with
  | some file =>
    rw [Session.finalState_connect_of_connected connected]
    exact grounded
  | none =>
    simp only [Session.connect, connected]
    cases opened : backend.acquire session.config session.host with
    | error halt host => exact isGrounded_of_disconnected rfl
    | ok file host =>
      obtain ⟨leads, _, rfl⟩ := acquire_eq_ok opened
      rintro after isAfter
      cases isAfter
      exact leads.write _ _

/-- Every operation leaves a connected session on the file to which its settings
lead. -/
theorem isGrounded_after (operation : Operation backend) (now : Instant)
    {session : Session backend} (grounded : IsGrounded session) :
    IsGrounded (operation.after now session) := by
  by_cases inside : operation.IsLifecycle
  · cases operation with
    | connect => exact isGrounded_connect grounded
    | disconnect =>
      exact isGrounded_of_disconnected (Session.handle_finalState_disconnect session)
    | quit =>
      change IsGrounded (Step.finalState (Session.quit session))
      rw [Session.finalState_quit]
      exact isGrounded_of_disconnected (Session.handle_finalState_disconnect session)
    | reopen config => exact isGrounded_of_disconnected rfl
    | _ => cases inside
  · cases connected : session.handle with
    | none =>
      exact isGrounded_of_disconnected
        (Operation.stands_after_of_disconnected inside now connected).handle
    | some file =>
      have kept (primitive : Primitive backend) (_ : operation.MayRun primitive) :
          primitive.KeepsAt now fun held : OpenFile => held.location = file.location :=
        keeps_location primitive now
      have stands := Operation.holds_after inside now kept connected rfl
      intro after isAfter
      rcases stands.handle with ⟨held, isHeld, isLocation⟩
      cases isAfter.symm.trans isHeld
      rw [stands.config, stands.host, isLocation]
      exact grounded file connected

/-! ## Items across connections -/

/-- Bytes are stored in the file to which the settings of a session lead: in the open
file while the session is connected, and in the tree otherwise. -/
structure Survives (location : Location) (database : String) (key : Key) (raw : Bytes)
    (session : Session backend) : Prop where
  leads : session.host.tree.LeadsTo (session.config.path session.host.home) location
  opened : ∀ file : OpenFile, session.handle = some file → file.Holds location database key raw
  closed : session.handle = none →
    ∃ tables, session.host.tree.look location = .file location tables ∧
      Holds database key raw tables

/-- An operation that gives up the session for a new one stays with its file. -/
def StaysOn (session : Session backend) : Operation backend → Prop
  | .reopen config =>
    ∃ location, session.host.tree.LeadsTo (session.config.path session.host.home) location ∧
      session.host.tree.LeadsTo (config.path session.host.home) location
  | _ => True

/-- Closing a file changes nowhere a path leads. -/
theorem leadsTo_disconnect {session : Session backend} {config : Config}
    (leads : session.host.tree.LeadsTo (config.path session.host.home) location) :
    (Step.finalState (Session.disconnect session)).host.tree.LeadsTo
      (config.path (Step.finalState (Session.disconnect session)).host.home) location := by
  cases connected : session.handle with
  | none =>
    rw [Session.finalState_disconnect_of_disconnected connected]
    exact leads
  | some file =>
    simp only [Session.disconnect, connected]
    exact leads.write _ _

theorem Survives.disconnect {session : Session backend}
    (survives : Survives location database key raw session) :
    Survives location database key raw (Step.finalState (Session.disconnect session)) := by
  cases connected : session.handle with
  | none =>
    rw [Session.finalState_disconnect_of_disconnected connected]
    exact survives
  | some file =>
    obtain ⟨isLocation, holds⟩ := survives.opened file connected
    simp only [Session.disconnect, connected]
    exact {
      leads := survives.leads.write _ _
      opened := fun _ impossible => by cases impossible
      closed := fun _ => ⟨file.tables, isLocation ▸ survives.leads.look_write _, holds⟩ }

theorem Survives.connect {session : Session backend}
    (survives : Survives location database key raw session) :
    Survives location database key raw (Step.finalState (Session.connect session)) := by
  cases connected : session.handle with
  | some file =>
    rw [Session.finalState_connect_of_connected connected]
    exact survives
  | none =>
    obtain ⟨tables, looks, holds⟩ := survives.closed connected
    have opened : backend.acquire session.config session.host = _ :=
      acquire_of_look survives.leads looks
    simp only [Session.connect, connected, opened]
    refine ⟨survives.leads.write _ _, ?_, fun impossible => by cases impossible⟩
    intro file isFile
    cases isFile
    exact ⟨rfl, holds.withDefault⟩

theorem Survives.reopen {session : Session backend} {config : Config}
    (survives : Survives location database key raw session)
    (stays : StaysOn session (.reopen config)) (now : Instant) :
    Survives location database key raw ((Operation.reopen config).after now session) := by
  rcases stays with ⟨other, leads, leadsToo⟩
  rcases survives.leads.unique leads with rfl
  have disconnected := Session.handle_finalState_disconnect session
  exact {
    leads := leadsTo_disconnect leadsToo
    opened := fun _ impossible => by cases impossible
    closed := fun _ => survives.disconnect.closed disconnected }

/-- An operation that spares an item and stays with its file leaves the item where it
is. -/
theorem Survives.after {session : Session backend}
    (survives : Survives location database key raw session) {operation : Operation backend}
    (spares : ∀ file : OpenFile, session.handle = some file →
      operation.Spares database key file.current)
    (stays : StaysOn session operation) (now : Instant) :
    Survives location database key raw (operation.after now session) := by
  by_cases inside : operation.IsLifecycle
  · cases operation with
    | connect => exact survives.connect
    | disconnect => exact survives.disconnect
    | quit =>
      change Survives location database key raw (Step.finalState (Session.quit session))
      rw [Session.finalState_quit]
      exact survives.disconnect
    | reopen config => exact survives.reopen stays now
    | _ => cases inside
  · cases connected : session.handle with
    | none =>
      have stands := Operation.stands_after_of_disconnected inside now connected
      refine ⟨?_, fun file isFile => ?_, fun _ => ?_⟩
      · rw [stands.config, stands.host]
        exact survives.leads
      · cases stands.handle.symm.trans isFile
      · rw [stands.host]
        exact survives.closed connected
    | some file =>
      have stands := (custody location database key raw).after inside now connected
        (spares file connected) (survives.opened file connected)
      rcases stands.handle with ⟨held, isHeld, holds⟩
      refine ⟨?_, fun other isOther => ?_, fun disconnected => ?_⟩
      · rw [stands.config, stands.host]
        exact survives.leads
      · cases isHeld.symm.trans isOther
        exact holds
      · cases isHeld.symm.trans disconnected

/-! ## A new file -/

/-- Settings for a new file. -/
def freshConfig : Config :=
  { Config.forDatabase "/tables" with createIfMissing := true }

/-- A tree without files. -/
def emptyHost : Host :=
  ⟨none, FileTree.ofDirectories [] [], fun _ _ => none⟩

/-- A session that has just been connected to a new file. -/
def fresh : Session backend :=
  Step.finalState (Session.connect (Session.new freshConfig emptyHost))

end TableFile

end KeyConsole
