import Mathlib.Logic.Function.Basic
import KeyConsole.Proofs.Session.Run
import KeyConsole.Proofs.Step.Confinement
import KeyConsole.Registry

/-!
# Separate databases

What the databases of an open connection hold is a catalog: under each name there is
nothing, or a database with the slots that are seen in it at every instant.  A backend
keeps its databases apart if its actions on items change the entry of the current
database alone, and its actions on databases the entry that they name.  Then so do the
operations of a session, and the current database is always there.
-/

namespace KeyConsole

open Storage

/-- The databases by name, each with the slots that are seen under its keys at an
instant. -/
abbrev Catalog := String → Option (Instant → Key → Option Slot)

namespace Catalog

/-- A database without items. -/
def noItems : Instant → Key → Option Slot :=
  fun _ _ => none

/-- What is seen of a catalog from an instant on. -/
def since (now : Instant) (catalog : Catalog) : Catalog :=
  fun name => (catalog name).map fun items later => items (now + later)

end Catalog

/-- How the databases of a backend are seen, and how it refuses to remove the current one. -/
structure Backend.View (B : Backend) where
  catalog : B.Handle → Catalog
  inUseCode : Int
  inUseText : String → String
  /-- The names that can be looked up. -/
  Askable : String → Prop

namespace Backend.View

variable {B : Backend} (view : B.View)

/-- The current database is there. -/
def IsPresent (handle : B.Handle) : Prop :=
  (view.catalog handle (B.currentDatabase handle)).isSome = true

/-- The same database is current and still there, and the others are as they were. -/
structure Near (before after : B.Handle) : Prop where
  current : B.currentDatabase after = B.currentDatabase before
  present : view.IsPresent after
  others : ∀ name, name ≠ B.currentDatabase before →
    view.catalog after name = view.catalog before name

/-- Actions on the items of the current database at an instant. -/
def confinement (now : Instant) : Step.Confinement B.Handle where
  valid := view.IsPresent
  near := view.Near
  same before after :=
    view.Near before after ∧
      (view.catalog after).since now = (view.catalog before).since now
  valid_of_near near := near.present
  near_of_same same := same.1
  same_refl present := ⟨⟨rfl, present, fun _ _ => rfl⟩, rfl⟩
  near_trans first second :=
    ⟨second.current.trans first.current, second.present, fun name other =>
      (second.others name (first.current.symm ▸ other)).trans (first.others name other)⟩
  same_trans first second :=
    ⟨⟨second.1.current.trans first.1.current, second.1.present, fun name other =>
      (second.1.others name (first.1.current.symm ▸ other)).trans (first.1.others name other)⟩,
      second.2.trans first.2⟩

end Backend.View

/-- A backend keeps its databases apart. -/
structure Backend.Separates (B : Backend) (view : B.View) : Prop where
  acquired : ∀ {config host handle after}, B.acquire config host = .ok handle after →
    view.IsPresent handle
  databases : ∀ handle, ∃ names, B.databases handle = .ok names handle ∧
    ∀ name, name ∈ names ↔ (view.catalog handle name).isSome = true
  get : ∀ now key, (view.confinement now).Reads (B.get now key)
  keys : ∀ now, (view.confinement now).Reads (B.keys now)
  rangeKeys : ∀ now first last limit,
    (view.confinement now).Reads (B.rangeKeys now first last limit)
  count : ∀ now, (view.confinement now).Reads (B.count now)
  count_ok : ∀ now handle, view.IsPresent handle →
    ∃ size after, B.count now handle = .ok size after
  statsText : ∀ now, (view.confinement now).Reads (B.statsText now)
  ttl : ∀ now key, (view.confinement now).Reads (B.ttl now key)
  extra : ∀ command ∈ B.extraCommands, ∀ now args,
    (view.confinement now).Reads (command.run now args)
  put : ∀ now key raw, (view.confinement now).Writes (B.put now key raw)
  remove : ∀ now key, (view.confinement now).Writes (B.remove now key)
  clear : ∀ now, (view.confinement now).Writes B.clear
  expire : ∀ now key seconds, (view.confinement now).Confines (B.expire now key seconds)
  createDatabase_refused : ∀ {name handle},
    Text.isBlankText name = true ∨ (view.catalog handle name).isSome = true →
      ∃ cause, B.createDatabase name handle = .error (.refused cause) handle
  createDatabase_ok : ∀ {name handle},
    Text.isBlankText name = false → view.catalog handle name = none →
      ∃ after, B.createDatabase name handle = .ok () after ∧
        B.currentDatabase after = B.currentDatabase handle ∧
        view.catalog after = Function.update (view.catalog handle) name (some Catalog.noItems)
  removeDatabase_inUse : ∀ handle, B.removeDatabase (B.currentDatabase handle) handle
    = .error (.refused (.other view.inUseCode (view.inUseText (B.currentDatabase handle)))) handle
  removeDatabase_missing : ∀ {name handle}, view.Askable name →
    name ≠ B.currentDatabase handle → view.catalog handle name = none →
      B.removeDatabase name handle = .error (.refused (.missingDatabase name)) handle
  removeDatabase_ok : ∀ {name handle}, view.Askable name →
    name ≠ B.currentDatabase handle → (view.catalog handle name).isSome = true →
      ∃ after, B.removeDatabase name handle = .ok () after ∧
        B.currentDatabase after = B.currentDatabase handle ∧
        view.catalog after = Function.update (view.catalog handle) name none
  removeDatabase_not_askable : ∀ {name} handle, ¬view.Askable name →
    ∃ halt, B.removeDatabase name handle = .error halt handle
  selectDatabase_missing : ∀ {name handle}, view.Askable name →
    view.catalog handle name = none →
      B.selectDatabase name handle = .error (.refused (.missingDatabase name)) handle
  selectDatabase_ok : ∀ {name handle}, view.Askable name →
    (view.catalog handle name).isSome = true →
      ∃ after, B.selectDatabase name handle = .ok () after ∧
        B.currentDatabase after = name ∧ view.catalog after = view.catalog handle
  selectDatabase_not_askable : ∀ {name} handle, ¬view.Askable name →
    ∃ halt, B.selectDatabase name handle = .error halt handle

/-! ## Operations on items -/

namespace Session

variable {B : Backend} {α : Type}

/-- Actions on the handle of a connected session. -/
def confinement (inner : Step.Confinement B.Handle) : Step.Confinement (Session B) where
  valid session := ∃ handle, session.handle = some handle ∧ inner.valid handle
  near before after := ∃ handle held, before.handle = some handle ∧
    after = { before with handle := some held } ∧ inner.near handle held
  same before after := ∃ handle held, before.handle = some handle ∧
    after = { before with handle := some held } ∧ inner.same handle held
  valid_of_near := by
    rintro before _ ⟨handle, held, _, rfl, near⟩
    exact ⟨held, rfl, inner.valid_of_near near⟩
  near_of_same := by
    rintro before after ⟨handle, held, connected, isAfter, same⟩
    exact ⟨handle, held, connected, isAfter, inner.near_of_same same⟩
  same_refl := by
    rintro session ⟨handle, connected, valid⟩
    exact ⟨handle, handle, connected, by rw [← connected], inner.same_refl valid⟩
  near_trans := by
    rintro first _ _ ⟨handle, held, connected, rfl, near⟩ ⟨_, last, isHeld, rfl, nearNext⟩
    cases isHeld
    exact ⟨handle, last, connected, rfl, inner.near_trans near nearNext⟩
  same_trans := by
    rintro first _ _ ⟨handle, held, connected, rfl, same⟩ ⟨_, last, isHeld, rfl, sameNext⟩
    cases isHeld
    exact ⟨handle, last, connected, rfl, inner.same_trans same sameNext⟩

section

variable {inner : Step.Confinement B.Handle} {act : HandleAction B.Handle α}

theorem reads_onHandle (command : String) (reads : inner.Reads act) :
    (confinement inner).Reads (onHandle command act) := by
  rintro session ⟨handle, connected, valid⟩
  rw [finalState_onHandle command act connected]
  exact ⟨handle, _, connected, rfl, reads handle valid⟩

theorem writes_onHandle (command : String) (writes : inner.Writes act) :
    (confinement inner).Writes (onHandle command act) := by
  rintro session ⟨handle, connected, valid⟩
  obtain ⟨result, held, ran, near⟩ := writes handle valid
  exact ⟨result, _, onHandle_eq_ok_iff.2 ⟨handle, held, connected, ran, rfl⟩,
    handle, held, connected, rfl, near⟩

theorem haltsUnseen_onHandle (command : String) (unseen : inner.HaltsUnseen act) :
    (confinement inner).HaltsUnseen (onHandle command act) := by
  rintro session ⟨handle, connected, valid⟩ halt after halted
  simp only [onHandle, connected] at halted
  cases ran : act handle with
  | ok result held =>
    rw [ran] at halted
    cases halted
  | error cause held =>
    rw [ran] at halted
    cases halted
    exact ⟨handle, held, connected, rfl, unseen handle valid cause held ran⟩

theorem confines_onHandle (command : String) (confines : inner.Confines act) :
    (confinement inner).Confines (onHandle command act) := by
  rintro session ⟨handle, connected, valid⟩
  constructor
  · rw [finalState_onHandle command act connected]
    exact ⟨handle, _, connected, rfl, (confines handle valid).1⟩
  · exact haltsUnseen_onHandle command confines.haltsUnseen session ⟨handle, connected, valid⟩

theorem writes_requireConnected : (confinement inner).Writes (@requireConnected B) := by
  intro session valid
  have still := (confinement inner).near_of_same ((confinement inner).same_refl valid)
  obtain ⟨handle, connected, _⟩ := valid
  exact ⟨(), session, requireConnected_of_connected connected, still⟩

theorem reads_requireConnected : (confinement inner).Reads (@requireConnected B) := by
  intro session valid
  have still := (confinement inner).same_refl valid
  obtain ⟨handle, connected, _⟩ := valid
  rwa [requireConnected_of_connected connected]

theorem reads_requireTtl (operation : String) :
    (confinement inner).Reads (@requireTtl B operation) :=
  reads_requireConnected.bind fun _ =>
    (Step.Confinement.reads_pure _).ite (Step.Confinement.reads_refuse _)

end

variable {view : B.View} (separates : B.Separates view) (now : Instant)

include separates

theorem reads_get (key : Key) :
    (confinement (view.confinement now)).Reads (get now key) := by
  apply (reads_onHandle "GET" (separates.get now key)).bind
  intro found
  cases found with
  | none => exact Step.Confinement.reads_refuse _
  | some raw => exact Step.Confinement.reads_pure _

theorem writes_set (item : Item) :
    (confinement (view.confinement now)).Writes (set now item) :=
  (writes_onHandle "SET" (separates.put now item.key item.value.encode)).bind fun _ =>
    Step.Confinement.writes_pure _

theorem writes_delete (keys : List Key) :
    (confinement (view.confinement now)).Writes (delete now keys) := by
  apply writes_requireConnected.bind
  intro _
  suffices from_ : ∀ removed, (confinement (view.confinement now)).Writes
      (deleteFrom (B := B) now removed keys) from from_ []
  induction keys with
  | nil => exact fun _ => Step.Confinement.writes_pure _
  | cons key keys ih =>
    intro removed
    exact (writes_onHandle "DEL" (separates.remove now key)).bind fun _ => ih _

/-- A key is only given to another item once its own is there, and then nothing fails. -/
theorem confines_rename (key newKey : Key) :
    (confinement (view.confinement now)).Confines (rename now key newKey) := by
  apply reads_requireConnected.bind_confines
  intro _
  apply Step.Confinement.Confines.ite
  · apply (reads_get separates now key).bind_confines
    intro item
    apply Step.Confinement.Confines.ite
    · exact (Step.Confinement.reads_pure _).confines
    · apply Step.Confinement.Writes.confines
      apply (writes_set separates now _).bind
      intro _
      exact (writes_delete separates now [key]).bind fun _ => Step.Confinement.writes_pure _
  · exact (Step.Confinement.reads_refuse _).confines

theorem reads_scan (cursor : Nat) (pattern : String) (count : Nat) :
    (confinement (view.confinement now)).Reads (scan now cursor pattern count) := by
  apply Step.Confinement.Reads.ite
  · exact Step.Confinement.reads_refuse _
  · exact (reads_onHandle "SCAN" (separates.keys now)).bind fun _ => Step.Confinement.reads_pure _

theorem reads_keys (first last : Key) (limit : Nat) :
    (confinement (view.confinement now)).Reads (keys now first last limit) := by
  apply reads_requireConnected.bind
  intro _
  apply Step.Confinement.Reads.ite
  · exact Step.Confinement.reads_pure _
  · exact reads_onHandle "KEYS" (separates.rangeKeys now first last limit)

theorem confines_expire (key : Key) (seconds : Nat) :
    (confinement (view.confinement now)).Confines (expire now key seconds) :=
  (reads_requireTtl "EXPIRE").bind_confines fun _ =>
    confines_onHandle "EXPIRE" (separates.expire now key seconds)

theorem reads_ttl (key : Key) : (confinement (view.confinement now)).Reads (ttl now key) :=
  (reads_requireTtl "TTL").bind fun _ => reads_onHandle "TTL" (separates.ttl now key)

end Session

end KeyConsole
