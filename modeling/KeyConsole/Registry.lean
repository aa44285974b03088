import KeyConsole.Backend.Memory
import KeyConsole.Backend.TableFile
import KeyConsole.Session

/-!
# The registry of backends

What to connect to is said by the name of a backend and a line of flags.  The
registry creates a session for it, if the backend is registered.
-/

namespace KeyConsole

/-- The backend of a kind. -/
def BackendKind.backend : BackendKind → Backend
  | memory => Memory.backend
  | tableFile => TableFile.backend

/-- What to connect to. -/
structure Settings where
  backend : BackendKind
  config : Config
  deriving DecidableEq, Repr

/-- Read the name of a backend, and flags on top of its default settings. -/
def Settings.ofNames (backend line : String) : Except Error Settings := do
  let kind ← BackendKind.ofName backend
  return ⟨kind, (kind.defaultConfig.applyLine line).1⟩

/-- The kinds of backends that are registered. -/
structure Registry where
  registered : List BackendKind
  deriving DecidableEq, Repr

namespace Registry

/-- The registry without backends. -/
def empty : Registry := ⟨[]⟩

/-- Register a kind; a second time changes nothing. -/
def register (registry : Registry) (kind : BackendKind) : Registry :=
  ⟨if registry.registered.contains kind then registry.registered
    else kind :: registry.registered⟩

/-- The registry of all kinds. -/
def full : Registry :=
  BackendKind.all.foldl register empty

/-- The registered kinds in their order. -/
def kinds (registry : Registry) : List BackendKind :=
  BackendKind.all.filter registry.registered.contains

/-- Refuse a kind that is not registered. -/
def check (registry : Registry) (kind : BackendKind) : Except Error Unit :=
  if registry.registered.contains kind then .ok ()
  else .error (.invalidArgument ("backend '" ++ kind.name ++ "' is not registered"))

/-- Create a session that is not connected. -/
def create (registry : Registry) (settings : Settings) (host : settings.backend.backend.Host) :
    Except Error (Session settings.backend.backend) := do
  registry.check settings.backend
  return Session.new settings.config host

end Registry

end KeyConsole
