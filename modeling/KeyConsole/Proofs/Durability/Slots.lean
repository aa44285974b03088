import KeyConsole.Backend.Memory
import KeyConsole.OrderedMap.Lemmas
import KeyConsole.Proofs.Durability.Custody
import KeyConsole.Proofs.Storage.Slots

/-!
# What actions do to a slot in memory

Whatever is done with a store in memory, the slot of a key in a database stays, goes away
because it has expired, or is removed, stored anew or given a deadline by an action on this
very key and database.  What runs keep of a slot follows from these cases.
-/

namespace KeyConsole.Memory

open KeyConsole.Storage

/-! ## What actions keep of a store -/

section Replacing

variable {property : Store → Prop} {now : Instant}

/-- Acting on the current engine keeps what is kept when the engine that it leaves is put
in its place. -/
theorem keeps_onEngine_of_replace {α : Type} {act : Engine → α × Engine}
    (kept : ∀ store engine, property store → store.databases.get? store.current = some engine →
      property { store with
        databases := store.databases.insert store.current (act engine).2 }) :
    Step.Keeps property (onEngine act) := by
  intro store holds
  unfold onEngine
  split
  · exact holds
  · next engine here => exact kept store engine holds here

theorem keeps_expire_of_replace {wanted : Key} {seconds : Nat}
    (kept : ∀ store engine found after, property store →
      store.databases.get? store.current = some engine →
      engine.expire now wanted seconds = some (found, after) →
      property { store with databases := store.databases.insert store.current after }) :
    Step.Keeps property (expire now wanted seconds) := by
  intro store holds
  unfold expire
  split
  · exact holds
  · next engine here =>
    split
    · exact holds
    · next found after expired => exact kept store engine found after holds here expired

theorem keeps_createDatabase_of_insert {name : String}
    (kept : ∀ store, property store → store.databases.contains name = false →
      property { store with databases := store.databases.insert name (Engine.empty spread) }) :
    Step.Keeps property (createDatabase name) := by
  intro store holds
  unfold createDatabase
  split
  · exact holds
  · split
    · exact holds
    · next missing => exact kept store holds (Bool.eq_false_iff.2 missing)

theorem keeps_removeDatabase_of_erase {name : String}
    (kept : ∀ store, property store →
      property { store with databases := store.databases.erase name }) :
    Step.Keeps property (removeDatabase name) := by
  intro store holds
  unfold removeDatabase
  split
  · exact holds
  · split
    · exact kept store holds
    · exact holds

end Replacing

/-- Only a selection changes which database is current. -/
theorem keeps_current {primitive : Primitive backend}
    (other : ∀ name, primitive ≠ .selectDatabase name) (current : String) :
    primitive.Keeps fun store : Store => store.current = current := by
  intro now
  have engine {α : Type} (act : Engine → α × Engine) :
      Step.Keeps (fun store : Store => store.current = current) (onEngine act) :=
    keeps_onEngine_of_replace fun _ _ isCurrent _ => isCurrent
  cases primitive with
  | get wanted => exact engine (·.get now wanted)
  | remove wanted => exact engine (·.delete now wanted)
  | keys => exact engine fun engine => (engine.sortedKeys now, engine)
  | clear => exact engine fun engine => ((), engine.flush)
  | put | ttl => exact (engine _).bind fun _ => Step.keeps_pure _
  | rangeKeys first last limit =>
    refine Step.Keeps.ite (fun _ => Step.keeps_pure _) fun _ => ?_
    exact (engine _).bind fun _ => Step.keeps_pure _
  | count =>
    have counts : Step.Keeps (fun store : Store => store.current = current) (count now) := engine _
    exact counts
  | databases => exact fun _ isCurrent => isCurrent
  | createDatabase name => exact keeps_createDatabase_of_insert fun _ isCurrent _ => isCurrent
  | removeDatabase name => exact keeps_removeDatabase_of_erase fun _ isCurrent => isCurrent
  | selectDatabase name => exact absurd rfl (other name)
  | statsText => exact (engine _).bind fun _ _ isCurrent => isCurrent
  | expire wanted seconds => exact keeps_expire_of_replace fun _ _ _ _ isCurrent _ _ => isCurrent
  | extra command own args =>
    rcases List.mem_singleton.1 own with rfl
    exact (engine _).bind fun _ => Step.keeps_pure _

/-! ## The slot of a key -/

/-- The slot that is held for a key in a database, expired or not. -/
def Store.slot? (database : String) (key : Key) (store : Store) : Option Slot :=
  (store.databases.get? database).bind (·.slot? key)

/-- The slot that is seen for a key in a database at an instant. -/
def Store.seen? (now : Instant) (database : String) (key : Key) (store : Store) : Option Slot :=
  (store.slot? database key).filter (·.isLive now)

/-- What can become of the slot of a key in a database by an action at an instant. -/
inductive SlotStep (now : Instant) (database : String) (key : Key) (store : Store)
    (primitive : Primitive backend) : Option Slot → Prop
  | kept : SlotStep now database key store primitive (store.slot? database key)
  /-- The slot is dropped if it has expired. -/
  | visited : SlotStep now database key store primitive (store.seen? now database key)
  | removed (touches : ¬primitive.Spares database key store.current) :
      SlotStep now database key store primitive none
  | stored {raw : Bytes} (puts : primitive = .put key raw) (here : store.current = database) :
      SlotStep now database key store primitive (some ⟨raw, none⟩)
  /-- The slot is given a deadline if it has not expired. -/
  | limited {slot : Slot} {seconds : Nat} (expires : primitive = .expire key seconds)
      (here : store.current = database)
      (seen : store.seen? now database key = some slot) :
      SlotStep now database key store primitive
        (some { slot with deadline := some (now + seconds * nanosPerSecond) })

variable {now : Instant} {database : String} {key : Key} {store : Store}
  {primitive : Primitive backend}

theorem Store.slot?_of_get? {engine : Engine} (found : store.databases.get? database = some engine)
    (key : Key) : store.slot? database key = engine.slot? key := by
  rw [slot?, found, Option.bind_some]

theorem Store.seen?_of_get? {engine : Engine} (found : store.databases.get? database = some engine)
    (now : Instant) (key : Key) : store.seen? now database key = engine.seen? now key := by
  rw [seen?, Store.slot?_of_get? found, Engine.seen?]

/-- What is seen at an instant decides what is seen from then on. -/
theorem Store.seen?_of_le {later : Instant} (before : now ≤ later) :
    store.seen? later database key = (store.seen? now database key).filter (·.isLive later) :=
  (Slot.filter_isLive_of_le before _).symm

theorem Store.slot?_replace (after : Engine) (database : String) (key : Key) :
    Store.slot? database key
        { store with databases := store.databases.insert store.current after }
      = if database = store.current then after.slot? key else store.slot? database key := by
  unfold slot?
  rw [OrderedMap.get?_insert]
  split
  · rfl
  · rfl

/-- What an action does to the current engine it does to the slots of the current database. -/
theorem slotStep_onEngine {α : Type} {act : Engine → α × Engine}
    (step : ∀ engine, store.databases.get? store.current = some engine →
      database = store.current →
        SlotStep now database key store primitive ((act engine).2.slot? key)) :
    SlotStep now database key store primitive
      ((Step.finalState (onEngine act store)).slot? database key) := by
  unfold onEngine
  split
  · exact .kept
  · next engine here =>
    change SlotStep now database key store primitive (Store.slot? database key
      { store with databases := store.databases.insert store.current (act engine).2 })
    rw [Store.slot?_replace]
    split
    · next isCurrent => exact step engine here isCurrent
    · exact .kept

theorem slotStep_fromEngine {α : Type} (read : Engine → α) :
    SlotStep now database key store primitive
      ((Step.finalState (fromEngine read store)).slot? database key) := by
  apply slotStep_onEngine
  intro engine here isCurrent
  rw [← Store.slot?_of_get? (isCurrent ▸ here)]
  exact .kept

/-- Looking at some key visits its slot at most. -/
theorem slotStep_visit {α : Type} {act : Engine → α × Engine} {wanted : Key}
    (visits : ∀ engine, (act engine).2.slot? key
      = if key = wanted then engine.seen? now wanted else engine.slot? key) :
    SlotStep now database key store primitive
      ((Step.finalState (onEngine act store)).slot? database key) := by
  apply slotStep_onEngine
  intro engine here isCurrent
  rw [visits]
  split
  · next same =>
    rw [← same, ← Store.seen?_of_get? (isCurrent ▸ here)]
    exact .visited
  · rw [← Store.slot?_of_get? (isCurrent ▸ here)]
    exact .kept

/-- A cleanup visits every slot of the current database. -/
theorem slotStep_cleanup {α : Type} {act : Engine → α × Engine}
    (cleans : ∀ engine, (act engine).2.slot? key = engine.seen? now key) :
    SlotStep now database key store primitive
      ((Step.finalState (onEngine act store)).slot? database key) := by
  apply slotStep_onEngine
  intro engine here isCurrent
  rw [cleans, ← Store.seen?_of_get? (isCurrent ▸ here)]
  exact .visited

theorem slotStep_count :
    SlotStep now database key store primitive
      ((Step.finalState (count now store)).slot? database key) := by
  unfold count
  exact slotStep_cleanup fun engine => engine.slot?_cleanupExpired now key

theorem slotStep_put (wanted : Key) (raw : Bytes) :
    SlotStep now database key store (.put wanted raw)
      ((Step.finalState (onEngine (·.set now wanted raw) store)).slot? database key) := by
  apply slotStep_onEngine
  intro engine here isCurrent
  rw [Engine.slot?_set]
  split
  · next same =>
    subst same
    exact .stored rfl isCurrent.symm
  · rw [← Store.slot?_of_get? (isCurrent ▸ here)]
    exact .kept

theorem slotStep_remove (wanted : Key) :
    SlotStep now database key store (.remove wanted)
      ((Step.finalState (onEngine (·.delete now wanted) store)).slot? database key) := by
  apply slotStep_onEngine
  intro engine here isCurrent
  rw [Engine.slot?_delete]
  split
  · next same => exact .removed fun spares => spares isCurrent.symm same.symm
  · rw [← Store.slot?_of_get? (isCurrent ▸ here)]
    exact .kept

theorem slotStep_clear :
    SlotStep now database key store .clear
      ((Step.finalState (onEngine (fun engine => ((), engine.flush)) store)).slot? database
        key) := by
  apply slotStep_onEngine
  intro engine here isCurrent
  rw [Engine.slot?_flush]
  exact .removed fun spares => spares isCurrent.symm

theorem slotStep_expire (wanted : Key) (seconds : Nat) :
    SlotStep now database key store (.expire wanted seconds)
      ((Step.finalState (expire now wanted seconds store)).slot? database key) := by
  unfold expire
  split
  · exact .kept
  · next engine here =>
    split
    · exact .kept
    · next found after expired =>
      rw [Step.finalState, Store.slot?_replace]
      split
      · next isCurrent =>
        have here : store.databases.get? database = some engine := isCurrent ▸ here
        by_cases same : key = wanted
        · subst same
          rw [Engine.slot?_expireAfter_self _ _ _ expired, ← Store.seen?_of_get? here]
          cases seen : store.seen? now database key with
          | none =>
            rw [Option.map_none, ← seen]
            exact .visited
          | some slot => exact .limited rfl isCurrent.symm seen
        · rw [Engine.slot?_expireAfter_of_ne _ _ _ _ expired same, ← Store.slot?_of_get? here]
          exact .kept
      · exact .kept

theorem slotStep_createDatabase (name : String) :
    SlotStep now database key store (.createDatabase name)
      ((Step.finalState (createDatabase name store)).slot? database key) := by
  unfold createDatabase
  split
  · exact .kept
  · split
    · exact .kept
    · next missing =>
      have still : Store.slot? database key
          { store with databases := store.databases.insert name (Engine.empty spread) }
            = store.slot? database key := by
        unfold Store.slot?
        rw [OrderedMap.get?_insert]
        split
        · next same =>
          subst same
          have none : store.databases.get? database = none := by
            simpa [OrderedMap.contains] using missing
          rw [none, Option.bind_some, Option.bind_none, Engine.slot?_empty]
        · rfl
      rw [Step.finalState, still]
      exact .kept

theorem slotStep_removeDatabase (name : String) :
    SlotStep now database key store (.removeDatabase name)
      ((Step.finalState (removeDatabase name store)).slot? database key) := by
  unfold removeDatabase
  split
  · exact .kept
  · split
    · rw [Step.finalState, Store.slot?, OrderedMap.get?_erase]
      split
      · next same => exact .removed fun spares => spares same.symm
      · exact .kept
    · exact .kept

theorem slotStep_selectDatabase (name : String) :
    SlotStep now database key store (.selectDatabase name)
      ((Step.finalState (selectDatabase name store)).slot? database key) := by
  unfold selectDatabase
  split
  · exact .kept
  · exact .kept

/-- Every action does one of these to the slot of a key in a database. -/
theorem slotStep_after (now : Instant) (database : String) (key : Key) (store : Store)
    (primitive : Primitive backend) :
    SlotStep now database key store primitive
      ((primitive.after now store).slot? database key) := by
  have bound {α β : Type} {first : Action α} {next : α → Action β}
      (same : ∀ result between, Step.finalState (next result between) = between)
      (step : SlotStep now database key store primitive
        ((Step.finalState (first store)).slot? database key)) :
      SlotStep now database key store primitive
        ((Step.finalState ((first >>= next) store)).slot? database key) := by
    rwa [Step.finalState_bind_of_same same]
  cases primitive with
  | get wanted => exact slotStep_visit fun engine => engine.slot?_get now wanted key
  | put wanted raw => exact bound (fun _ _ => rfl) (slotStep_put wanted raw)
  | remove wanted => exact slotStep_remove wanted
  | keys => exact slotStep_fromEngine _
  | rangeKeys first last limit =>
    change SlotStep now database key store _ ((Step.finalState
      (Backend.walkRange (fromEngine (·.sortedKeys now)) first last limit store)).slot? database key)
    unfold Backend.walkRange
    split
    · exact .kept
    · exact bound (fun _ _ => rfl) (slotStep_fromEngine _)
  | count => exact slotStep_count
  | clear => exact slotStep_clear
  | databases => exact .kept
  | createDatabase name => exact slotStep_createDatabase name
  | removeDatabase name => exact slotStep_removeDatabase name
  | selectDatabase name => exact slotStep_selectDatabase name
  | statsText => exact bound (fun _ _ => rfl) (slotStep_fromEngine _)
  | expire wanted seconds => exact slotStep_expire wanted seconds
  | ttl wanted =>
    exact bound (fun _ _ => rfl) (slotStep_visit fun engine => engine.slot?_ttl now wanted key)
  | extra command own args =>
    rcases List.mem_singleton.1 own with rfl
    exact bound (fun _ _ => rfl)
      (slotStep_cleanup fun engine => engine.slot?_cleanupExpired now key)

/-! ## What actions keep of a slot -/

variable {later first : Instant} {slot : Slot} {after : Option Slot}

/-- A slot that is seen at an instant is still so behind actions before that spare it. -/
theorem SlotStep.seen (step : SlotStep now database key store primitive after)
    (before : now ≤ later) (spares : primitive.Spares database key store.current)
    (seen : store.seen? later database key = some slot) :
    after.filter (·.isLive later) = some slot := by
  cases step with
  | kept => exact seen
  | visited => rwa [← Store.seen?_of_le before]
  | removed touches => exact absurd spares touches
  | stored puts here =>
    subst puts
    exact absurd rfl (spares here)
  | limited expires here =>
    subst expires
    exact absurd rfl (spares here)

/-- What is not seen from an instant on only comes back by being stored. -/
theorem SlotStep.unseen (step : SlotStep now database key store primitive after)
    (since : first ≤ now)
    (storesNot : ∀ raw, primitive = .put key raw → store.current ≠ database)
    (unseen : store.seen? first database key = none) :
    after.filter (·.isLive first) = none := by
  have unseenNow : store.seen? now database key = none := by
    rw [Store.seen?_of_le since, unseen, Option.filter_none]
  cases step with
  | kept => exact unseen
  | visited => rw [unseenNow, Option.filter_none]
  | removed => rfl
  | @stored raw puts here => exact absurd here (storesNot raw puts)
  | limited expires here seen => cases unseenNow.symm.trans seen

/-- What allowed actions keep of the slot of a key is in custody. -/
theorem custodyAt_slot {allowed : String → Primitive backend → Prop}
    (property : Option Slot → Prop)
    (free : ∀ current primitive,
      (∃ name, primitive = .selectDatabase name) ∨ primitive = .count → allowed current primitive)
    (kept : ∀ {store primitive after}, allowed store.current primitive →
      SlotStep now database key store primitive after →
        property (store.slot? database key) → property after) :
    CustodyAt backend now allowed fun store : Store => property (store.slot? database key) where
  kept := by
    rintro primitive current other allows store ⟨holds, rfl⟩
    constructor
    · exact kept allows (slotStep_after now database key store primitive) holds
    · exact keeps_current other store.current now store rfl
  count current := free current .count (Or.inr rfl)
  select name store :=
    kept (free store.current _ (Or.inl ⟨name, rfl⟩)) (slotStep_after now database key store _)

/-- A slot that is seen at an instant is in the custody of actions before that spare it. -/
theorem custodyAt_seen (before : now ≤ later) :
    CustodyAt backend now (fun current => Primitive.Spares database key current)
      fun store : Store => store.seen? later database key = some slot := by
  apply custodyAt_slot fun slot? => slot?.filter (·.isLive later) = some slot
  · rintro current _ (⟨name, rfl⟩ | rfl) <;> exact trivial
  · exact fun spares step => step.seen before spares

/-- What is not seen from an instant on stays so by actions from then on that do not store it. -/
theorem custodyAt_unseen (since : first ≤ now) :
    CustodyAt backend now
      (fun current primitive => ∀ raw, primitive = .put key raw → current ≠ database)
      fun store : Store => store.seen? first database key = none := by
  apply custodyAt_slot fun slot? => slot?.filter (·.isLive first) = none
  · rintro current _ (⟨name, rfl⟩ | rfl) raw impossible <;> cases impossible
  · exact fun storesNot step => step.unseen since storesNot

end KeyConsole.Memory
