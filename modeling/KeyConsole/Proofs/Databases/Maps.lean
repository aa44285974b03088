import KeyConsole.Backend.Guarded
import KeyConsole.Proofs.Databases.Isolation
import KeyConsole.Proofs.Step.Breakdown

/-!
# Databases as maps

From an instant on, all that can be seen of an open connection is which database is
current and what each holds under its keys.  A backend acts on maps at an instant if
getting, putting and removing do with the current database what they say, or are refused
without a change, no matter which of them it refuses.  Whether a key that is removed was
there is told by the backends that can tell, which is more than acting on maps.
-/

namespace KeyConsole

open Storage

/-- What can be seen of the databases from an instant on. -/
@[ext]
structure Sight where
  /-- The name of the current database. -/
  current : String
  databases : Catalog

namespace Sight

/-- What is seen under a key of the current database after some time. -/
def slot? (sight : Sight) (key : Key) (later : Instant) : Option Slot :=
  (sight.databases sight.current).bind fun items => items later key

/-- The same but for one key of the current database, under which something or nothing is
from now on. -/
def replace (sight : Sight) (key : Key) (slot : Option Slot) : Sight where
  current := sight.current
  databases :=
    Function.update sight.databases sight.current
      ((sight.databases sight.current).map fun items later other =>
        if other = key then slot else items later other)

/-- The current database is there. -/
def IsPresent (sight : Sight) : Prop :=
  (sight.databases sight.current).isSome = true

variable {sight : Sight}

theorem current_replace (sight : Sight) (key : Key) (slot : Option Slot) :
    (sight.replace key slot).current = sight.current :=
  rfl

theorem databases_replace_of_ne {name : String} (other : name ≠ sight.current) (key : Key)
    (slot : Option Slot) : (sight.replace key slot).databases name = sight.databases name :=
  Function.update_of_ne other _ _

theorem slot?_replace (present : sight.IsPresent) (key : Key) (slot : Option Slot) (other : Key)
    (later : Instant) :
    (sight.replace key slot).slot? other later
      = if other = key then slot else sight.slot? other later := by
  obtain ⟨items, here⟩ := Option.isSome_iff_exists.1 present
  simp [Sight.slot?, replace, here]

theorem IsPresent.replace (present : sight.IsPresent) (key : Key) (slot : Option Slot) :
    (sight.replace key slot).IsPresent := by
  simpa [IsPresent, Sight.replace] using present

/-- Nothing differs but what is under some keys of the current database. -/
structure SameBut (keys : List Key) (before after : Sight) : Prop where
  current : after.current = before.current
  others : ∀ name, name ≠ before.current → after.databases name = before.databases name
  items : ∀ key, key ∉ keys → ∀ later, after.slot? key later = before.slot? key later

theorem SameBut.refl (keys : List Key) (sight : Sight) : SameBut keys sight sight :=
  ⟨rfl, fun _ _ => rfl, fun _ _ _ => rfl⟩

theorem SameBut.replace {keys : List Key} {before after : Sight}
    (same : SameBut keys before after) (present : after.IsPresent) {key : Key}
    (mem : key ∈ keys) (slot : Option Slot) : SameBut keys before (after.replace key slot) where
  current := same.current
  others name other := by
    rw [databases_replace_of_ne (same.current ▸ other), same.others name other]
  items other notMem later := by
    have different : other ≠ key := fun equal => notMem (equal ▸ mem)
    rw [slot?_replace present, if_neg different, same.items other notMem later]

end Sight

namespace Backend

variable {B : Backend}

namespace View

variable {α : Type} (view : B.View)

/-- What can be seen of an open connection from an instant on. -/
def sight (now : Instant) (handle : B.Handle) : Sight where
  current := B.currentDatabase handle
  databases := (view.catalog handle).since now

/-- An action answers and does what is meant at an instant, or is refused without a change. -/
def Acts (now : Instant) (act : HandleAction B.Handle α) (meant : Sight → α × Sight) : Prop :=
  ∀ handle, view.IsPresent handle → ∃ after,
    (act handle = .ok (meant (view.sight now handle)).1 after ∧
      view.sight now after = (meant (view.sight now handle)).2) ∨
    ∃ cause, act handle = .error (.refused cause) after ∧
      view.sight now after = view.sight now handle

variable {view} {now : Instant} {handle after : B.Handle}

theorem isPresent_sight : (view.sight now handle).IsPresent ↔ view.IsPresent handle := by
  simp only [Sight.IsPresent, IsPresent, sight, Catalog.since, Option.isSome_map]

theorem isPresent_of_sight_eq {sight : Sight} (seen : view.sight now after = sight)
    (present : sight.IsPresent) : view.IsPresent after :=
  isPresent_sight.1 (seen ▸ present)

theorem sight_of_same (same : (view.confinement now).same handle after) :
    view.sight now after = view.sight now handle :=
  Sight.ext same.1.current same.2

theorem slot?_sight {items : Instant → Key → Option Slot}
    (here : view.catalog handle (B.currentDatabase handle) = some items) (key : Key)
    (later : Instant) : (view.sight now handle).slot? key later = items (now + later) key := by
  simp only [Sight.slot?, sight, Catalog.since, here, Option.map_some, Option.bind_some]

/-- What differs in one key of the current database shows the same but for that key. -/
theorem sight_eq_replace {items itemsAfter : Instant → Key → Option Slot}
    (here : view.catalog handle (B.currentDatabase handle) = some items)
    (hereAfter : view.catalog after (B.currentDatabase after) = some itemsAfter)
    (near : view.Near handle after) {key : Key} {slot : Option Slot}
    (entry : ∀ later other, itemsAfter later other
      = if other = key then slot else items later other) :
    view.sight now after = (view.sight now handle).replace key slot := by
  refine Sight.ext near.current (funext fun name => ?_)
  by_cases isCurrent : name = B.currentDatabase handle
  · subst isCurrent
    rw [near.current] at hereAfter
    simp only [sight, Sight.replace, Function.update_self, Catalog.since, here, hereAfter,
      Option.map_some]
    exact congrArg some (funext fun later => funext fun other => entry _ other)
  · rw [Sight.databases_replace_of_ne isCurrent]
    exact congrArg (Option.map _) (near.others name isCurrent)

variable {act : HandleAction B.Handle α} {meant : Sight → α × Sight}

theorem Acts.of_ok (acts : view.Acts now act meant) (present : view.IsPresent handle) {result : α}
    (ran : act handle = .ok result after) :
    result = (meant (view.sight now handle)).1 ∧
      view.sight now after = (meant (view.sight now handle)).2 := by
  obtain ⟨held, ⟨done, seen⟩ | ⟨cause, refused, -⟩⟩ := acts handle present
  · cases ran.symm.trans done
    exact ⟨rfl, seen⟩
  · cases ran.symm.trans refused

theorem Acts.of_error (acts : view.Acts now act meant) (present : view.IsPresent handle)
    {halt : Halt Refusal} (ran : act handle = .error halt after) :
    view.sight now after = view.sight now handle := by
  obtain ⟨held, ⟨done, -⟩ | ⟨cause, refused, seen⟩⟩ := acts handle present
  · cases ran.symm.trans done
  · cases ran.symm.trans refused
    exact seen

/-- What an action does is the same if its result is dropped. -/
theorem Acts.discard (acts : view.Acts now act meant) :
    view.Acts now (Step.discard act) fun sight => ((), (meant sight).2) := by
  intro handle present
  obtain ⟨held, ⟨done, seen⟩ | ⟨cause, refused, seen⟩⟩ := acts handle present
  · exact ⟨held, .inl ⟨Step.discard_eq_ok_iff.2 ⟨_, done⟩, seen⟩⟩
  · exact ⟨held, .inr ⟨cause, Step.discard_eq_error_iff.2 refused, seen⟩⟩

end View

/-- Removing keys at an instant acts on the current database as on a map and tells whether
the key was there, whenever it is not refused. -/
def TellsRemoved (B : Backend) (view : B.View) (now : Instant) : Prop :=
  ∀ key, view.Acts now (B.remove now key) fun sight =>
    ((sight.slot? key 0).isSome, sight.replace key none)

/-- Getting, putting and removing at an instant act on the current database as on a map,
whenever they are not refused.  A removal may tell anything of whether the key was there. -/
structure ActsOnMaps (B : Backend) (view : B.View) (now : Instant) : Prop where
  get : ∀ key, view.Acts now (B.get now key) fun sight =>
    ((sight.slot? key 0).map Slot.value, sight)
  put : ∀ key raw, view.Acts now (B.put now key raw) fun sight =>
    ((), sight.replace key (some ⟨raw, none⟩))
  remove : ∀ key, view.Acts now (Step.discard (B.remove now key)) fun sight =>
    ((), sight.replace key none)

end Backend

/-! ## In memory -/

namespace Memory

variable {store : Store} {engine after : Engine} {now : Instant} {key : Key}

theorem catalog_current (here : store.databases.get? store.current = some engine) :
    view.catalog store store.current = some fun now key => engine.seen? now key :=
  congrArg (Option.map _) here

theorem slot?_sight (here : store.databases.get? store.current = some engine) (later : Instant) :
    (view.sight now store).slot? key later = engine.seen? (now + later) key :=
  Backend.View.slot?_sight (catalog_current here) key later

/-- An engine that differs under one key shows the same but for that key. -/
theorem sight_insert (here : store.databases.get? store.current = some engine)
    {slot : Option Slot}
    (seen : ∀ later other, after.seen? later other
      = if other = key then slot else engine.seen? later other) :
    view.sight now { store with databases := store.databases.insert store.current after }
      = (view.sight now store).replace key slot := by
  have hereAfter : (store.databases.insert store.current after).get? store.current
      = some after := by
    rw [OrderedMap.get?_insert, if_pos rfl]
  exact Backend.View.sight_eq_replace (catalog_current here) (catalog_current hereAfter)
    (near_replace store after) seen

theorem seen?_set (raw : Bytes) (later : Instant) (other : Key) :
    (engine.set now key raw).2.seen? later other
      = if other = key then some ⟨raw, none⟩ else engine.seen? later other := by
  have live : (⟨raw, none⟩ : Slot).isLive later = true :=
    Slot.isLive_of_deadline_eq_none rfl later
  rw [Engine.seen?, Engine.slot?_set]
  split
  · simp [Option.filter, live]
  · rfl

theorem seen?_delete (later : Instant) (other : Key) :
    (engine.delete now key).2.seen? later other
      = if other = key then none else engine.seen? later other := by
  rw [Engine.seen?, Engine.slot?_delete]
  split
  · rfl
  · rfl

theorem tellsRemoved (now : Instant) : backend.TellsRemoved view now := by
  intro key store present
  obtain ⟨engine, here⟩ := isPresent_iff.1 present
  have ran := onEngine_of_get? (fun engine => engine.delete now key) here
  rw [Engine.delete_fst, ← Nat.add_zero now, ← slot?_sight here] at ran
  exact ⟨_, .inl ⟨ran, sight_insert here seen?_delete⟩⟩

/-- The backend in memory acts on maps and never refuses to. -/
theorem actsOnMaps (now : Instant) : backend.ActsOnMaps view now where
  get key store present := by
    obtain ⟨engine, here⟩ := isPresent_iff.1 present
    have ran := onEngine_of_get? (fun engine => engine.get now key) here
    rw [Engine.get_fst, ← Nat.add_zero now, ← slot?_sight here] at ran
    have seen := since_replace here (seen?_of_visited (engine.slot?_get now key))
    exact ⟨_, .inl ⟨ran, Sight.ext rfl seen⟩⟩
  put key raw store present := by
    obtain ⟨engine, here⟩ := isPresent_iff.1 present
    have ran := onEngine_of_get? (fun engine => engine.set now key raw) here
    exact ⟨_, .inl ⟨Step.bind_of_ok ran, sight_insert here (seen?_set raw)⟩⟩
  remove key := (tellsRemoved now key).discard

end Memory

/-! ## In a file -/

namespace TableFile

variable {file : OpenFile} {table after : Table} {now : Instant} {key : Key}

theorem exists_table (present : view.IsPresent file) :
    ∃ table, file.tables.get? file.current = some table :=
  (OrderedMap.contains_eq_true_iff _).1 (isSome_catalog_iff.1 present)

theorem catalog_current (here : file.tables.get? file.current = some table) :
    view.catalog file file.current
      = some fun _ key => (table.get? key).map fun raw => ⟨raw, none⟩ :=
  congrArg (Option.map _) here

theorem slot?_sight (here : file.tables.get? file.current = some table) (later : Instant) :
    (view.sight now file).slot? key later = (table.get? key).map fun raw => ⟨raw, none⟩ :=
  Backend.View.slot?_sight (catalog_current here) key later

/-- What is got from a table is the value of what can be seen. -/
theorem value_slot?_sight (here : file.tables.get? file.current = some table) :
    ((view.sight now file).slot? key 0).map Slot.value = table.get? key := by
  rw [slot?_sight here, Option.map_map]
  exact Option.map_id'

/-- A table that differs under one key shows the same but for that key. -/
theorem sight_insert (here : file.tables.get? file.current = some table) {raw : Option Bytes}
    (entry : ∀ other, after.get? other = if other = key then raw else table.get? other) :
    view.sight now { file with tables := file.tables.insert file.current after }
      = (view.sight now file).replace key (raw.map fun raw => ⟨raw, none⟩) := by
  have hereAfter : (file.tables.insert file.current after).get? file.current = some after := by
    rw [OrderedMap.get?_insert, if_pos rfl]
  refine Backend.View.sight_eq_replace (catalog_current here) (catalog_current hereAfter)
    (near_replace file after) fun later other => ?_
  rw [entry, apply_ite (Option.map _)]

theorem fromTable_of_get? {α : Type} (read : Table → α)
    (here : file.tables.get? file.current = some table) :
    fromTable read file = .ok (read table) file := by
  simp only [fromTable, here]

theorem onTable_of_get? {α : Type} (act : Table → α × Table)
    (here : file.tables.get? file.current = some table) :
    onTable act file
      = .ok (act table).1
          { file with tables := file.tables.insert file.current (act table).2 } := by
  simp only [onTable, here, Option.getD_some]

theorem tellsRemoved (now : Instant) : backend.TellsRemoved view now := by
  intro key file present
  obtain ⟨table, here⟩ := exists_table present
  have found : ((view.sight now file).slot? key 0).isSome = table.contains key := by
    rw [slot?_sight here, Option.isSome_map]
    rfl
  have ran := onTable_of_get? (fun table => (table.contains key, table.erase key)) here
  rw [← found] at ran
  exact ⟨_, .inl ⟨ran, sight_insert here fun other => OrderedMap.get?_erase _ key other⟩⟩

/-- The backend in a file acts on maps, and never refuses to while the current table is
there. -/
theorem actsOnMaps (now : Instant) : backend.ActsOnMaps view now where
  get key file present := by
    obtain ⟨table, here⟩ := exists_table present
    have ran := fromTable_of_get? (·.get? key) here
    rw [← value_slot?_sight here] at ran
    exact ⟨file, .inl ⟨ran, rfl⟩⟩
  put key raw file present := by
    obtain ⟨table, here⟩ := exists_table present
    have ran := onTable_of_get? (fun table => ((), table.insert key raw)) here
    exact ⟨_, .inl ⟨ran, sight_insert here fun other => OrderedMap.get?_insert _ key other raw⟩⟩
  remove key := (tellsRemoved now key).discard

end TableFile

theorem BackendKind.tellsRemoved_view (kind : BackendKind) (now : Instant) :
    kind.backend.TellsRemoved kind.view now := by
  cases kind with
  | memory => exact Memory.tellsRemoved now
  | tableFile => exact TableFile.tellsRemoved now

theorem BackendKind.actsOnMaps_view (kind : BackendKind) (now : Instant) :
    kind.backend.ActsOnMaps kind.view now := by
  cases kind with
  | memory => exact Memory.actsOnMaps now
  | tableFile => exact TableFile.actsOnMaps now

/-! ## With refusals -/

namespace Guarded

variable {capabilities : Capabilities} {items after : Items} {now : Instant} {key : Key}

/-- The only database: all items, without deadlines. -/
def view (capabilities : Capabilities) : (backend capabilities).View where
  catalog items name :=
    if name = mainName then some fun _ key => (items.get? key).map fun raw => ⟨raw, none⟩
    else none
  inUseCode := 99
  inUseText _ := refusedText
  Askable name := name = mainName

theorem catalog_main (items : Items) :
    (view capabilities).catalog items mainName
      = some fun _ key => (items.get? key).map fun raw => ⟨raw, none⟩ := by
  simp only [view, if_true]

theorem slot?_sight (later : Instant) :
    ((view capabilities).sight now items).slot? key later
      = (items.get? key).map fun raw => ⟨raw, none⟩ :=
  Backend.View.slot?_sight (catalog_main items) key later

/-- Items that differ under one key show the same but for that key. -/
theorem sight_of_entry {raw : Option Bytes}
    (entry : ∀ other, after.get? other = if other = key then raw else items.get? other) :
    (view capabilities).sight now after
      = ((view capabilities).sight now items).replace key (raw.map fun raw => ⟨raw, none⟩) := by
  have near : (view capabilities).Near items after := by
    refine ⟨rfl, Option.isSome_of_eq_some (catalog_main after), fun name other => ?_⟩
    have different : name ≠ mainName := other
    simp only [view, if_neg different]
  refine Backend.View.sight_eq_replace (catalog_main items) (catalog_main after) near
    fun later other => ?_
  rw [entry, apply_ite (Option.map _)]

theorem get_of_ne (allowed : key ≠ marked "noget") :
    get key items
      = .ok ((((view capabilities).sight now items).slot? key 0).map Slot.value) items := by
  rw [get, if_neg allowed, slot?_sight, Option.map_map]
  exact congrArg (EStateM.Result.ok · items) Option.map_id'.symm

theorem remove_of_ne (allowed : key ≠ marked "nodel") :
    remove key items
      = .ok (((view capabilities).sight now items).slot? key 0).isSome (items.erase key) := by
  rw [remove, if_neg allowed, slot?_sight, Option.isSome_map]
  rfl

theorem tellsRemoved (capabilities : Capabilities) (now : Instant) :
    (backend capabilities).TellsRemoved (view capabilities) now := by
  intro key items _
  by_cases guarded : key = marked "nodel"
  · exact ⟨items, .inr ⟨.other 99 refusedText, if_pos guarded, rfl⟩⟩
  · exact ⟨_, .inl ⟨remove_of_ne guarded,
      sight_of_entry fun other => OrderedMap.get?_erase items key other⟩⟩

/-- The backend that refuses acts on maps whenever it does not. -/
theorem actsOnMaps (capabilities : Capabilities) (now : Instant) :
    (backend capabilities).ActsOnMaps (view capabilities) now where
  get key items _ := by
    by_cases guarded : key = marked "noget"
    · exact ⟨items, .inr ⟨.other 99 refusedText, if_pos guarded, rfl⟩⟩
    · exact ⟨items, .inl ⟨get_of_ne guarded, rfl⟩⟩
  put key raw items _ := by
    by_cases guarded : key = marked "noput"
    · exact ⟨items, .inr ⟨.other 99 refusedText, if_pos guarded, rfl⟩⟩
    · exact ⟨_, .inl ⟨if_neg guarded,
        sight_of_entry fun other => OrderedMap.get?_insert items key other raw⟩⟩
  remove key := (tellsRemoved capabilities now key).discard

end Guarded

end KeyConsole
