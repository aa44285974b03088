import KeyConsole.Proofs.Databases.Memory
import KeyConsole.Proofs.Databases.TableFile

/-!
# Databases are isolated

Both kinds of backends keep their databases apart, so whatever has been done with a
session, its operations reach the current database and the ones that they name, and
nothing else.
-/

namespace KeyConsole

/-- How the databases of a kind of backend are seen. -/
def BackendKind.view : (kind : BackendKind) → kind.backend.View
  | memory => Memory.view
  | tableFile => TableFile.view

theorem BackendKind.separates_view (kind : BackendKind) : kind.backend.Separates kind.view := by
  cases kind with
  | memory => exact Memory.separates
  | tableFile => exact TableFile.separates

/-- Whatever a connected session has been through, its current database is listed, and in
memory its engine is found.  Operations on items change nothing but the current database,
creating and removing one nothing but that one, and selecting one only which is current;
those that fail change nothing that can be seen. -/
theorem Session.databases_isolated :
    (∀ {kind : BackendKind} {config : Config} {host : kind.backend.Host}
      {session : Session kind.backend} {handle : kind.backend.Handle},
      Reachable config host session → session.handle = some handle →
        ∀ now, Apart kind.view now session handle) ∧
      ∀ {config : Config} {session : Session Memory.backend} {store : Memory.Store},
        Reachable config () session → session.handle = some store →
          ∃ engine, store.databases.get? store.current = some engine := by
  constructor
  · intro kind config host session handle reachable connected now
    have present := reachable.isPresent kind.separates_view connected
    exact apart kind.separates_view now connected present
  · intro config session store reachable connected
    have present := reachable.isPresent Memory.separates connected
    exact Memory.isPresent_iff.1 present

/-- The only database of a new connection in memory cannot be removed, and no other one
can be selected. -/
theorem Session.databases_isolated_default :
    let store : Memory.Store :=
      ⟨OrderedMap.singleton "default" (Storage.Engine.empty Storage.spread), "default"⟩
    let session : Session Memory.backend := ⟨Config.forDatabase "default", (), some store, false⟩
    removeDatabase "default" session
        = .error (.refused (.native 3 "REMOVEDB: database 'default' is in use")) session ∧
      selectDatabase 0 "other" session = .error (.refused (.databaseNotFound "other")) session ∧
        ∃ engine, store.databases.get? store.current = some engine := by
  intro store session
  have reachable : Reachable (Config.forDatabase "default") () session :=
    .single ⟨0, .operation .connect, fun _ _ => trivial, rfl⟩
  have isolated := @databases_isolated.1 .memory _ _ session store reachable rfl 0
  exact ⟨isolated.removeDatabase_current, isolated.selectDatabase_missing "other" trivial rfl,
    databases_isolated.2 reachable rfl⟩

end KeyConsole
