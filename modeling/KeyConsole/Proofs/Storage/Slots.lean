import KeyConsole.Storage.Lemmas

/-!
# What operations do to slots

What every operation of a database in memory answers, and which slots it leaves.
Only live slots are seen, and no operation touches the live slot of another key.
-/

namespace KeyConsole.Storage

namespace Slot

theorem isLive_of_deadline_eq_none {slot : Slot} (endless : slot.deadline = none)
    (now : Instant) : slot.isLive now = true := by
  simp [isLive, isExpired, endless]

/-- A slot that is live at an instant has been live before. -/
theorem isLive_of_le {slot : Slot} {now later : Instant} (before : now ≤ later)
    (live : slot.isLive later = true) : slot.isLive now = true := by
  unfold isLive isExpired at live ⊢
  cases ends : slot.deadline with
  | none => rfl
  | some deadline =>
    simp only [ends, Bool.not_eq_true', decide_eq_false_iff_not, Nat.not_le] at live ⊢
    exact Nat.lt_of_le_of_lt before live

/-- What is live at an instant decides what is live from then on. -/
theorem filter_isLive_of_le {now later : Instant} (before : now ≤ later) (slot? : Option Slot) :
    (slot?.filter (·.isLive now)).filter (·.isLive later) = slot?.filter (·.isLive later) := by
  cases slot? with
  | none => rfl
  | some slot =>
    cases live : slot.isLive later with
    | true => simp [Option.filter, live, isLive_of_le before live]
    | false => cases liveNow : slot.isLive now <;> simp [Option.filter, live, liveNow]

end Slot

namespace Engine

variable (engine : Engine) (now : Instant) (key other : Bytes)

/-- The slot that is seen for a key at an instant. -/
def seen? : Option Slot :=
  (engine.slot? key).filter (·.isLive now)

/-- What is seen at an instant decides what is seen from then on. -/
theorem seen?_of_le {now later : Instant} (before : now ≤ later) :
    (engine.seen? now key).filter (·.isLive later) = engine.seen? later key :=
  Slot.filter_isLive_of_le before _

theorem slot?_dropExpired :
    (engine.dropExpired key).slot? other = if other = key then none else engine.slot? other :=
  engine.slot?_erase key other

theorem liveSlot_fst : (engine.liveSlot now key).1 = engine.seen? now key := by
  unfold liveSlot seen?
  cases engine.slot? key with
  | none => rfl
  | some slot => cases expired : slot.isExpired now <;> simp [expired, Slot.isLive, Option.filter]

/-- Looking at a key drops its slot if it has expired. -/
theorem slot?_liveSlot :
    (engine.liveSlot now key).2.slot? other
      = if other = key then engine.seen? now key else engine.slot? other := by
  by_cases same : other = key
  · subst same
    rw [if_pos rfl, seen?]
    unfold liveSlot
    cases held : engine.slot? other with
    | none => exact held
    | some slot =>
      cases expired : slot.isExpired now <;>
        simp [expired, held, slot?_dropExpired, Slot.isLive, Option.filter]
  · rw [if_neg same]
    unfold liveSlot
    cases engine.slot? key with
    | none => rfl
    | some slot => cases expired : slot.isExpired now <;> simp [expired, slot?_dropExpired, same]

theorem get_fst : (engine.get now key).1 = (engine.seen? now key).map Slot.value :=
  congrArg (Option.map Slot.value) (liveSlot_fst _ now key)

theorem slot?_get :
    (engine.get now key).2.slot? other
      = if other = key then engine.seen? now key else engine.slot? other :=
  slot?_liveSlot _ now key other

theorem ttl_fst :
    (engine.ttl now key).1 = (engine.seen? now key).map fun slot => slot.secondsLeft now :=
  congrArg (Option.map fun slot : Slot => slot.secondsLeft now) (engine.liveSlot_fst now key)

theorem slot?_ttl :
    (engine.ttl now key).2.slot? other
      = if other = key then engine.seen? now key else engine.slot? other :=
  slot?_liveSlot _ now key other

theorem slot?_set (value : Bytes) :
    (engine.set now key value).2.slot? other
      = if other = key then some ⟨value, none⟩ else engine.slot? other := by
  unfold set
  cases engine.slot? key with
  | none => simp [slot?_insert]
  | some slot => cases expired : slot.isExpired now <;> simp [expired, slot?_insert]

theorem set_fst (value : Bytes) :
    (engine.set now key value).1 = (engine.seen? now key).isNone := by
  unfold set seen?
  cases engine.slot? key with
  | none => rfl
  | some slot => cases expired : slot.isExpired now <;> simp [expired, Slot.isLive, Option.filter]

theorem delete_fst : (engine.delete now key).1 = (engine.seen? now key).isSome := by
  unfold delete seen?
  cases engine.slot? key with
  | none => rfl
  | some slot => cases expired : slot.isExpired now <;> simp [expired, Slot.isLive, Option.filter]

theorem slot?_delete :
    (engine.delete now key).2.slot? other
      = if other = key then none else engine.slot? other := by
  unfold delete
  cases held : engine.slot? key with
  | none =>
    by_cases same : other = key
    · simp [same, held]
    · simp [same]
  | some slot =>
    cases expired : slot.isExpired now <;> simp [expired, slot?_erase, slot?_dropExpired]

/-- An expiry looks at its key and, if that is live, stores its slot with the
deadline. -/
theorem expireAfter_eq (lifetime : Nat) :
    engine.expireAfter now key lifetime
      = match engine.seen? now key with
        | none => some (false, (engine.liveSlot now key).2)
        | some slot =>
          if now + lifetime < clockEnd then
            some (true, engine.updateShard key
              (·.insert key { slot with deadline := some (now + lifetime) }))
          else none := by
  unfold expireAfter seen? liveSlot
  cases engine.slot? key with
  | none => rfl
  | some slot => cases expired : slot.isExpired now <;> simp [expired, Slot.isLive, Option.filter]

/-- An expiry changes the slot of its key alone. -/
theorem slot?_expireAfter_of_ne {lifetime : Nat} {found : Bool} {after : Engine}
    (expired : engine.expireAfter now key lifetime = some (found, after))
    (different : other ≠ key) :
    after.slot? other = engine.slot? other := by
  unfold expireAfter at expired
  cases held : engine.slot? key with
  | none =>
    simp only [held, Option.some.injEq, Prod.mk.injEq] at expired
    rw [← expired.2]
  | some slot =>
    simp only [held] at expired
    split at expired
    · cases expired
      rw [slot?_dropExpired, if_neg different]
    · split at expired
      · cases expired
        rw [slot?_insert, if_neg different]
      · cases expired

/-- An expiry gives the live slot of its key the deadline. -/
theorem slot?_expireAfter_self {lifetime : Nat} {found : Bool} {after : Engine}
    (expired : engine.expireAfter now key lifetime = some (found, after)) :
    after.slot? key
      = (engine.seen? now key).map fun slot => { slot with deadline := some (now + lifetime) } := by
  rw [expireAfter_eq] at expired
  cases seen : engine.seen? now key with
  | none =>
    rw [seen] at expired
    cases expired
    rw [slot?_liveSlot, if_pos rfl, seen]
    rfl
  | some slot =>
    simp only [seen] at expired
    split at expired
    · cases expired
      rw [slot?_insert, if_pos rfl]
      rfl
    · cases expired

theorem slot?_flush : engine.flush.slot? key = none := by
  simp [slot?, shard, flush]

/-- A cleanup leaves the slots that are live. -/
theorem slot?_cleanupExpired :
    (engine.cleanupExpired now).2.slot? key = engine.seen? now key := by
  simp [cleanupExpired, slot?, shard, seen?, OrderedMap.get?_filter]

end Engine

end KeyConsole.Storage
