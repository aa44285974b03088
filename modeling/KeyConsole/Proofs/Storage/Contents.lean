import Mathlib.Data.List.Basic
import Mathlib.Data.List.Nodup
import KeyConsole.Proofs.OrderedMap.Counting
import KeyConsole.Proofs.Storage.Slots

/-!
# A sharded database as one ordered map

However the keys are routed, a database in memory holds the slots of one ordered
map: every slot lies in the shard of its key, and the counter says how many there
are.  Every operation takes the map of its database to another map, and listings
are listings of the map.
-/

namespace KeyConsole.Storage.Engine

/-- The slots in the shards are those of a map, each in the shard of its key. -/
structure Holds (engine : Engine) (map : OrderedMap Bytes Slot) : Prop where
  placed : ∀ index : Fin shardCount, ∀ entry ∈ (engine.shards[index]).entries,
    engine.route entry.1 = index
  slot : ∀ key, engine.slot? key = map.get? key

/-- An engine holds the slots of a map and has counted them. -/
structure Represents (engine : Engine) (map : OrderedMap Bytes Slot) : Prop
    extends Holds engine map where
  counted : engine.counters.keys = map.size

variable {engine : Engine} {map : OrderedMap Bytes Slot}

/-! ## Changing one slot -/

theorem Holds.count (holds : engine.Holds map) (change : Counters → Counters) :
    (engine.count change).Holds map :=
  ⟨holds.placed, holds.slot⟩

theorem Holds.insert (holds : engine.Holds map) (key : Bytes) (slot : Slot) :
    (engine.updateShard key (·.insert key slot)).Holds (map.insert key slot) where
  placed index entry mem := by
    simp only [updateShard, Fin.getElem_fin, Vector.getElem_set] at mem ⊢
    split at mem
    · next same =>
      rcases OrderedMap.fst_mem_place mem with rfl | mem
      · exact Fin.ext same
      · exact (holds.placed _ entry mem).trans (Fin.ext same)
    · exact holds.placed index entry mem
  slot other := by
    rw [slot?_insert, OrderedMap.get?_insert, holds.slot]

theorem Holds.erase (holds : engine.Holds map) (key : Bytes) :
    (engine.updateShard key (·.erase key)).Holds (map.erase key) where
  placed index entry mem := by
    simp only [updateShard, Fin.getElem_fin, Vector.getElem_set] at mem ⊢
    split at mem
    · next same => exact (holds.placed _ entry (List.mem_of_mem_filter mem)).trans (Fin.ext same)
    · exact holds.placed index entry mem
  slot other := by
    rw [slot?_erase, OrderedMap.get?_erase, holds.slot]

/-! ## Listing the slots -/

theorem Holds.mem_entries_iff (holds : engine.Holds map) {entry : Bytes × Slot} :
    entry ∈ engine.entries ↔ entry ∈ map.entries := by
  rcases entry with ⟨key, slot⟩
  rw [← map.get?_eq_some_iff, ← holds.slot, slot?, shard, OrderedMap.get?_eq_some_iff, entries,
    List.mem_flatMap]
  constructor
  · rintro ⟨shard, isShard, mem⟩
    obtain ⟨index, bound, rfl⟩ := List.getElem_of_mem isShard
    rw [Vector.length_toList] at bound
    have routed : engine.route key = ⟨index, bound⟩ := holds.placed ⟨index, bound⟩ _ mem
    simp only [routed]
    exact mem
  · intro mem
    exact ⟨_, by simp, mem⟩

theorem Holds.nodup_entries (holds : engine.Holds map) : engine.entries.Nodup := by
  refine List.nodup_flatMap.2 ⟨fun shard _ => shard.nodup_entries, ?_⟩
  apply List.pairwise_iff_getElem.2
  intro i j boundI boundJ less
  rw [Vector.length_toList] at boundI boundJ
  intro entry memFirst memSecond
  have first : engine.route entry.1 = ⟨i, boundI⟩ := holds.placed ⟨i, boundI⟩ entry memFirst
  have second : engine.route entry.1 = ⟨j, boundJ⟩ := holds.placed ⟨j, boundJ⟩ entry memSecond
  exact Nat.ne_of_lt less (congrArg Fin.val (first.symm.trans second))

/-- The entries of all shards are those of the map in some order. -/
theorem Holds.entries_perm (holds : engine.Holds map) : engine.entries.Perm map.entries :=
  (List.perm_ext_iff_of_nodup holds.nodup_entries map.nodup_entries).2 fun _ =>
    holds.mem_entries_iff

theorem Holds.liveEntries_perm (holds : engine.Holds map) (now : Instant) :
    (engine.liveEntries now).Perm (map.filter fun _ slot => slot.isLive now).entries :=
  holds.entries_perm.filter _

/-- Sorting the live keys of all shards gives those of the map. -/
theorem Holds.sortedKeys_eq (holds : engine.Holds map) (now : Instant) :
    engine.sortedKeys now = (map.filter fun _ slot => slot.isLive now).keys := by
  have sorted : (engine.sortedKeys now).Pairwise (· ≤ ·) := by
    refine (List.pairwise_mergeSort (fun a b c less lessToo => ?_) (fun a b => ?_) _).imp
      of_decide_eq_true
    · exact decide_eq_true (Std.le_trans (of_decide_eq_true less) (of_decide_eq_true lessToo))
    · simpa using Std.le_total (a := a) (b := b)
  have ascending : (map.filter fun _ slot => slot.isLive now).keys.Pairwise (· ≤ ·) :=
    (OrderedMap.sorted_keys _).imp Std.le_of_lt
  refine List.Perm.eq_of_pairwise (fun a b _ _ less greater => ?_) sorted ascending ?_
  · exact Std.le_antisymm less greater
  · exact (List.mergeSort_perm _ _).trans ((holds.liveEntries_perm now).map Prod.fst)

/-- Sorting loses no live key. -/
theorem length_sortedKeys (engine : Engine) (now : Instant) :
    (engine.sortedKeys now).length = (engine.figures now).liveKeys := by
  rw [sortedKeys, List.length_mergeSort, List.length_map]
  rfl

/-- The live slots of all shards are charged like those of the map. -/
theorem Holds.usedMemory_eq (holds : engine.Holds map) (now : Instant) :
    (engine.figures now).usedMemory
      = (map.filter fun _ slot => slot.isLive now).total fun key slot =>
          key.length + slot.value.length + slotOverhead := by
  apply (holds.liveEntries_perm now).foldr_eq'
  rintro ⟨key, slot⟩ _ ⟨other, slotToo⟩ _ sum
  exact Nat.add_left_comm _ _ sum

/-! ## Operations -/

theorem represents_empty (route : Bytes → Fin shardCount) :
    (empty route).Represents OrderedMap.empty where
  placed index entry mem := by
    simp [empty, OrderedMap.empty] at mem
  slot key := slot?_empty route key
  counted := rfl

theorem Represents.dropExpired (represents : engine.Represents map) {key : Bytes} {slot : Slot}
    (held : map.get? key = some slot) : (engine.dropExpired key).Represents (map.erase key) where
  toHolds := (represents.toHolds.erase key).count _
  counted := Counters.keys_release (represents.counted.trans (map.size_erase_add_one held).symm)

/-- A held key gets another slot. -/
theorem Represents.insert (represents : engine.Represents map) {key : Bytes} {old : Slot}
    (held : map.get? key = some old) (slot : Slot) :
    (engine.updateShard key (·.insert key slot)).Represents (map.insert key slot) where
  toHolds := represents.toHolds.insert key slot
  counted := represents.counted.trans (map.size_insert_of_get?_eq_some slot held).symm

/-- What is left of a map when a key has been looked at. -/
def visited (now : Instant) (key : Bytes) (map : OrderedMap Bytes Slot) :
    OrderedMap Bytes Slot :=
  map.filter fun other slot => other ≠ key || slot.isLive now

theorem visited_of_live {now : Instant} {key : Bytes}
    (live : ∀ slot, map.get? key = some slot → slot.isLive now = true) :
    visited now key map = map := by
  apply map.filter_eq_self
  intro other slot held
  by_cases same : other = key
  · simp [live slot (same ▸ held)]
  · simp [same]

theorem visited_of_expired {now : Instant} {key : Bytes} {slot : Slot}
    (held : map.get? key = some slot) (expired : slot.isExpired now = true) :
    visited now key map = map.erase key := by
  apply OrderedMap.ext_get?
  intro other
  rw [visited, OrderedMap.get?_filter, OrderedMap.get?_erase]
  by_cases same : other = key
  · rw [if_pos same, same, held]
    exact Option.filter_some_neg (by simp [Slot.isLive, expired])
  · rw [if_neg same]
    cases map.get? other with
    | none => rfl
    | some kept => exact Option.filter_some_pos (by simp [same])

/-- Looking at a key drops its slot if it has expired, and nothing else. -/
theorem Represents.liveSlot (represents : engine.Represents map) (now : Instant) (key : Bytes) :
    (engine.liveSlot now key).2.Represents (visited now key map) := by
  unfold Engine.liveSlot
  rw [represents.slot]
  cases held : map.get? key with
  | none =>
    rw [visited_of_live fun slot isHeld => nomatch held.symm.trans isHeld]
    exact represents
  | some slot =>
    dsimp only
    split
    · next expired =>
      rw [visited_of_expired held expired]
      exact represents.dropExpired held
    · next live =>
      rw [visited_of_live fun other isHeld => ?_]
      · exact represents
      · cases held.symm.trans isHeld
        simpa [Slot.isLive] using live

theorem Represents.get (represents : engine.Represents map) (now : Instant) (key : Bytes) :
    (engine.get now key).2.Represents (visited now key map) := by
  have counted : (engine.count fun c => { c with gets := c.gets + 1 }).Represents map :=
    ⟨represents.toHolds.count _, represents.counted⟩
  exact counted.liveSlot now key

theorem Represents.set (represents : engine.Represents map) (now : Instant)
    (key value : Bytes) :
    (engine.set now key value).2.Represents (map.insert key ⟨value, none⟩) := by
  have holds := represents.toHolds.insert key ⟨value, none⟩
  unfold Engine.set
  rw [represents.slot]
  cases held : map.get? key with
  | none =>
    have size := map.size_insert_of_get?_eq_none ⟨value, none⟩ held
    dsimp only
    refine ⟨(holds.count _).count _, ?_⟩
    rw [size, ← represents.counted]
    rfl
  | some slot =>
    have size := map.size_insert_of_get?_eq_some ⟨value, none⟩ held
    dsimp only
    split <;> dsimp only
    · exact ⟨(holds.count _).count _, represents.counted.trans size.symm⟩
    · exact ⟨holds.count _, represents.counted.trans size.symm⟩

theorem Represents.delete (represents : engine.Represents map) (now : Instant) (key : Bytes) :
    (engine.delete now key).2.Represents (map.erase key) := by
  have counted : (engine.count fun c => { c with dels := c.dels + 1 }).Represents map :=
    ⟨represents.toHolds.count _, represents.counted⟩
  unfold Engine.delete
  rw [represents.slot]
  cases held : map.get? key with
  | none =>
    rw [map.erase_of_get?_eq_none held]
    exact counted
  | some slot =>
    dsimp only
    split <;> dsimp only
    · exact counted.dropExpired held
    · refine ⟨(counted.toHolds.erase key).count _, ?_⟩
      exact Counters.keys_release (counted.counted.trans (map.size_erase_add_one held).symm)

theorem represents_flush (engine : Engine) : engine.flush.Represents OrderedMap.empty where
  placed index entry mem := by
    simp [flush, OrderedMap.empty] at mem
  slot key := slot?_flush engine key
  counted := rfl

/-- A cleanup leaves the live slots and counts them. -/
theorem Represents.cleanupExpired (represents : engine.Represents map) (now : Instant) :
    (engine.cleanupExpired now).2.Represents (map.filter fun _ slot => slot.isLive now) where
  placed index entry mem := by
    simp only [Engine.cleanupExpired, Fin.getElem_fin, Vector.getElem_map] at mem
    exact represents.placed index entry (List.mem_of_mem_filter mem)
  slot key := by
    rw [slot?_cleanupExpired, seen?, represents.slot, OrderedMap.get?_filter]
  counted := by
    have dropped : (engine.entries.filter fun entry => entry.2.isExpired now).length
        = (map.entries.filter fun entry => !entry.2.isLive now).length := by
      rw [(represents.entries_perm.filter _).length_eq]
      simp only [Slot.isLive, Bool.not_not]
    have split := map.entries.length_eq_length_filter_add fun entry => entry.2.isLive now
    rw [← dropped] at split
    exact Counters.keys_release (represents.counted.trans split)

end KeyConsole.Storage.Engine
