import KeyConsole.OrderedMap.Lemmas
import KeyConsole.Storage.Engine

/-!
# Slots of a database in memory

What the two ways of changing a shard do to the slots of all keys.  They hold
for every route, so no slot depends on which shard its key is given.
-/

namespace KeyConsole.Storage

/-- Nothing wraps when the slots that are taken off are among those held. -/
theorem Counters.keys_release {counters : Counters} {left n : Nat}
    (held : counters.keys = left + n) : (counters.release n).keys = left := by
  have enough : n ≤ counters.keys := held ▸ Nat.le_add_left n left
  exact (if_pos enough).trans (held ▸ Nat.add_sub_cancel left n)

namespace Engine

@[simp]
theorem slot?_empty (route : Bytes → Fin shardCount) (key : Bytes) :
    (empty route).slot? key = none := by
  simp [slot?, shard, empty]

@[simp]
theorem slot?_count (engine : Engine) (change : Counters → Counters) (key : Bytes) :
    (engine.count change).slot? key = engine.slot? key :=
  rfl

theorem shard_congr (engine : Engine) {key other : Bytes}
    (sameRoute : engine.route key = engine.route other) :
    engine.shard key = engine.shard other := by
  simp only [shard, sameRoute]

theorem shard_updateShard (engine : Engine) (key other : Bytes) (change : Shard → Shard) :
    (engine.updateShard key change).shard other
      = if engine.route key = engine.route other then change (engine.shard key)
        else engine.shard other := by
  simp [shard, updateShard, Vector.getElem_set, Fin.val_inj]

/-- Storing a slot changes what is held for its key alone. -/
theorem slot?_insert (engine : Engine) (key other : Bytes) (slot : Slot) :
    (engine.updateShard key (·.insert key slot)).slot? other
      = if other = key then some slot else engine.slot? other := by
  rw [slot?, shard_updateShard]
  split
  · next sameRoute =>
    rw [OrderedMap.get?_insert, slot?, engine.shard_congr sameRoute]
  · next otherRoute =>
    have different : other ≠ key := fun same => otherRoute (same ▸ rfl)
    rw [if_neg different, slot?]

/-- Removing a slot changes what is held for its key alone. -/
theorem slot?_erase (engine : Engine) (key other : Bytes) :
    (engine.updateShard key (·.erase key)).slot? other
      = if other = key then none else engine.slot? other := by
  rw [slot?, shard_updateShard]
  split
  · next sameRoute =>
    rw [OrderedMap.get?_erase, slot?, engine.shard_congr sameRoute]
  · next otherRoute =>
    have different : other ≠ key := fun same => otherRoute (same ▸ rfl)
    rw [if_neg different, slot?]

end Engine

end KeyConsole.Storage
