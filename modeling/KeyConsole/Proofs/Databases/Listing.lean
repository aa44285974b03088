import KeyConsole.Proofs.Backend.Range
import KeyConsole.Proofs.Databases.Figures
import KeyConsole.Proofs.Databases.Maps

/-!
# What a connection tells of its keys

There are many ways to ask which keys the current database holds and how many there are:
a listing, a range, a count, figures, and looking for one key.  As long as a connection is
sound, which it is when it is opened and no action changes, all of them tell what can be
seen at the instant of the question.
-/

namespace KeyConsole

open Storage

/-- The number of keys in figures of either kind. -/
def ServerInfo.keys : ServerInfo → Nat
  | memory figures => figures.keys
  | tableFile figures => figures.keys

namespace Sight

/-- All keys under which something can be seen at once, in ascending order. -/
structure Lists (sight : Sight) (all : List Key) : Prop where
  ascending : all.Pairwise (· < ·)
  mem_iff : ∀ key, key ∈ all ↔ (sight.slot? key 0).isSome = true

variable {sight : Sight} {all others : List Key}

theorem Lists.nodup (lists : sight.Lists all) : all.Nodup :=
  lists.ascending.imp fun less => Std.ne_of_lt less

/-- Where the same keys can be seen, they are listed alike. -/
theorem Lists.eq_of_isSome_eq {other : Sight} (lists : sight.Lists all)
    (listsToo : other.Lists others)
    (same : ∀ key, (sight.slot? key 0).isSome = (other.slot? key 0).isSome) : all = others := by
  have perm : all.Perm others :=
    (List.perm_ext_iff_of_nodup lists.nodup listsToo.nodup).2 fun key => by
      rw [lists.mem_iff, listsToo.mem_iff, same]
  refine perm.eq_of_pairwise (fun first second _ _ less greater => ?_) lists.ascending
    listsToo.ascending
  exact absurd (Std.lt_trans less greater) Std.lt_irrefl

end Sight

namespace Backend

/-- Whichever way a connection is asked at an instant, it tells of the keys of the current
database what can be seen. -/
structure Tells (B : Backend) (now : Instant) (handle : B.Handle) (sight : Sight)
    (all : List Key) : Prop where
  lists : sight.Lists all
  keys : B.keys now handle = .ok all handle
  rangeKeys : ∀ first last limit, B.rangeKeys now first last limit handle
    = .ok ((all.filter (Key.isBetween first last)).take limit) handle
  count : ∃ after, B.count now handle = .ok all.length after
  statsText : ∃ info : ServerInfo, B.statsText now handle = .ok info.toText handle ∧
    info.kind = B.kind ∧ info.keys = all.length
  get : ∀ key, ∃ after,
    B.get now key handle = .ok ((sight.slot? key 0).map Slot.value) after
  ttl : B.capabilities.ttl = true → ∀ key, ∃ after,
    B.ttl now key handle = .ok ((sight.slot? key 0).elim (-2) (·.secondsLeft now)) after

/-- Sound connections tell what can be seen, and every connection is sound. -/
structure TellsKeys (B : Backend) (view : B.View) (sound : B.Handle → Prop) : Prop where
  opened : ∀ config host handle after, B.acquire config host = .ok handle after → sound handle
  kept : ∀ primitive : Primitive B, primitive.Keeps sound
  isPresent : ∀ handle, sound handle → view.IsPresent handle
  tells : ∀ now handle, sound handle → ∃ all, B.Tells now handle (view.sight now handle) all

end Backend

/-! ## In memory -/

namespace Memory

variable {store : Store} {engine : Engine} {map : OrderedMap Bytes Slot} {now : Instant}

/-- The current database is there, and every database is counted. -/
structure Sound (store : Store) : Prop where
  isPresent : view.IsPresent store
  counted : Counted store

theorem keeps_sound (primitive : Primitive backend) : primitive.Keeps Sound :=
  fun now store sound =>
    ⟨separates.keeps_isPresent primitive now store sound.isPresent,
      keeps_counted primitive now store sound.counted⟩

theorem lists_sortedKeys (represents : engine.Represents map)
    (here : store.databases.get? store.current = some engine) :
    (view.sight now store).Lists (engine.sortedKeys now) := by
  rw [represents.sortedKeys_eq]
  refine ⟨OrderedMap.sorted_keys _, fun key => ?_⟩
  rw [OrderedMap.mem_keys_iff, OrderedMap.contains, OrderedMap.get?_filter, slot?_sight here,
    Nat.add_zero, Engine.seen?, represents.slot]

theorem tells (sound : Sound store) :
    ∃ all, backend.Tells now store (view.sight now store) all := by
  obtain ⟨engine, here⟩ := isPresent_iff.1 sound.isPresent
  obtain ⟨map, represents⟩ := sound.counted _ engine here
  have lists : (view.sight now store).Lists (engine.sortedKeys now) :=
    lists_sortedKeys represents here
  have listed : fromEngine (·.sortedKeys now) store = .ok (engine.sortedKeys now) store :=
    fromEngine_eq_ok _ here
  have length : (engine.sortedKeys now).length = (engine.figures now).liveKeys :=
    engine.length_sortedKeys now
  have seen (key : Key) : (view.sight now store).slot? key 0 = engine.seen? now key :=
    slot?_sight here 0
  refine ⟨engine.sortedKeys now, lists, listed, ?_, ?_, ?_, ?_, ?_⟩
  · exact Backend.walkRange_of_unchanged listed lists.ascending
  · rw [length]
    exact count_eq_ok sound.counted here
  · exact ⟨_, statsText_eq_ok here, rfl, length.symm⟩
  · intro key
    have ran := onEngine_of_get? (fun engine => engine.get now key) here
    rw [Engine.get_fst, ← seen] at ran
    exact ⟨_, ran⟩
  · intro _ key
    have ran := onEngine_of_get? (fun engine => engine.ttl now key) here
    rw [Engine.ttl_fst, ← seen] at ran
    have told (slot? : Option Slot) : slot?.elim (-2) (·.secondsLeft now)
        = (slot?.map fun slot => slot.secondsLeft now).getD (-2) := by
      cases slot? <;> rfl
    rw [told]
    exact ⟨_, Step.bind_of_ok ran⟩

/-- The backend in memory tells what can be seen. -/
theorem tellsKeys : backend.TellsKeys view Sound where
  opened _ _ _ _ acquired := ⟨isPresent_of_acquire acquired, counted_of_acquire acquired⟩
  kept := keeps_sound
  isPresent _ sound := sound.isPresent
  tells _ _ := tells

end Memory

/-! ## In a file -/

namespace TableFile

variable {file : OpenFile} {table : Table} {now : Instant}

theorem lists_keys (here : file.tables.get? file.current = some table) :
    (view.sight now file).Lists table.keys := by
  refine ⟨table.sorted_keys, fun key => ?_⟩
  rw [OrderedMap.mem_keys_iff, slot?_sight here, Option.isSome_map]
  rfl

theorem statsText_eq_ok (here : file.tables.get? file.current = some table) :
    ∃ info : ServerInfo, statsText now file = .ok info.toText file ∧ info.kind = .tableFile ∧
      info.keys = table.size := by
  have counted : count file = .ok table.size file := fromTable_of_get? _ here
  exact ⟨_, Step.bind_of_ok counted, rfl, rfl⟩

theorem tells (present : view.IsPresent file) :
    ∃ all, backend.Tells now file (view.sight now file) all := by
  obtain ⟨table, here⟩ := exists_table present
  have length : table.keys.length = table.size := List.length_map _
  refine ⟨table.keys, lists_keys here, fromTable_of_get? _ here, ?_, ?_, ?_, ?_, ?_⟩
  · exact rangeKeys_eq_ok here
  · exact ⟨file, length ▸ fromTable_of_get? OrderedMap.size here⟩
  · rw [length]
    exact statsText_eq_ok here
  · intro key
    rw [value_slot?_sight here]
    exact ⟨file, fromTable_of_get? (·.get? key) here⟩
  · intro expires
    cases expires

/-- The backend in a file tells what can be seen while its table is there. -/
theorem tellsKeys : backend.TellsKeys view view.IsPresent where
  opened _ _ _ _ := isPresent_of_acquire
  kept := separates.keeps_isPresent
  isPresent _ present := present
  tells _ _ := tells

end TableFile

/-! ## Both kinds -/

/-- What every connection of a kind is. -/
def BackendKind.Sound : (kind : BackendKind) → kind.backend.Handle → Prop
  | memory => Memory.Sound
  | tableFile => TableFile.view.IsPresent

theorem BackendKind.tellsKeys (kind : BackendKind) :
    kind.backend.TellsKeys kind.view kind.Sound := by
  cases kind with
  | memory => exact Memory.tellsKeys
  | tableFile => exact TableFile.tellsKeys

/-- Whatever a connected session has been through, its connection is sound. -/
theorem Session.Reachable.sound {kind : BackendKind} {config : Config} {host : kind.backend.Host}
    {session : Session kind.backend} {handle : kind.backend.Handle}
    (reachable : Reachable config host session) (connected : session.handle = some handle) :
    kind.Sound handle :=
  reachable.upholds kind.tellsKeys.opened kind.tellsKeys.kept handle connected

end KeyConsole
