import KeyConsole.Proofs.Durability.Slots

/-!
# Items that stay in memory

A slot without a deadline is live at every instant, so neither the expiry of
other slots nor a cleanup takes it away, and an action on another key or in
another database does not reach it.
-/

namespace KeyConsole.Memory

open KeyConsole.Storage

/-- Bytes are stored under a key in a database, without a deadline. -/
def Store.Holds (database : String) (key : Key) (raw : Bytes) (store : Store) : Prop :=
  ∃ engine, store.databases.get? database = some engine ∧ engine.slot? key = some ⟨raw, none⟩

variable {database : String} {key : Key} {raw : Bytes}

theorem seen?_of_endless {engine : Engine} (held : engine.slot? key = some ⟨raw, none⟩)
    (now : Instant) : engine.seen? now key = some ⟨raw, none⟩ := by
  rw [Engine.seen?, held]
  exact Option.filter_some_pos (Slot.isLive_of_deadline_eq_none rfl now)

/-- What is held without a deadline is what is seen so at any one instant. -/
theorem Store.holds_iff_seen? (now : Instant) (store : Store) :
    store.Holds database key raw ↔ store.seen? now database key = some ⟨raw, none⟩ := by
  constructor
  · rintro ⟨engine, found, held⟩
    rw [Store.seen?_of_get? found, seen?_of_endless held]
  · intro seen
    exact Option.bind_eq_some_iff.1 (Option.filter_eq_some_iff.1 seen).1

/-- No action that spares an item takes it away. -/
theorem custody (database : String) (key : Key) (raw : Bytes) :
    Custody backend database key (Store.Holds database key raw) := by
  have isSeen (now : Instant) : Store.Holds database key raw
      = fun store => store.seen? now database key = some ⟨raw, none⟩ :=
    funext fun store => propext (store.holds_iff_seen? now)
  constructor
  · intro primitive current other spares now
    rw [isSeen now]
    exact (custodyAt_seen (Nat.le_refl now)).kept other spares
  · intro name now
    rw [isSeen now]
    exact (custodyAt_seen (Nat.le_refl now)).select name

/-! ## Storing and reading -/

theorem onEngine_of_get? {α : Type} (act : Engine → α × Engine) {store : Store} {engine : Engine}
    (here : store.databases.get? store.current = some engine) :
    onEngine act store
      = .ok (act engine).1
        { store with databases := store.databases.insert store.current (act engine).2 } := by
  simp only [onEngine, here]

/-- What has been stored is held in the current database. -/
theorem holds_of_put {now : Instant} {store after : Store}
    (put : backend.put now key raw store = .ok () after) : after.Holds store.current key raw := by
  obtain ⟨isNew, between, ran, isAfter⟩ := Step.bind_eq_ok_iff.1 put
  cases isAfter
  cases here : store.databases.get? store.current with
  | none =>
    simp only [onEngine, here] at ran
    cases ran
  | some engine =>
    rw [onEngine_of_get? _ here] at ran
    cases ran
    refine ⟨(engine.set now key raw).2, ?_, ?_⟩
    · rw [OrderedMap.get?_insert, if_pos rfl]
    · rw [Engine.slot?_set, if_pos rfl]

theorem get_of_holds {store : Store} (holds : store.Holds store.current key raw) (now : Instant) :
    ∃ after, backend.get now key store = .ok (some raw) after := by
  rcases holds with ⟨engine, here, held⟩
  have read : (engine.get now key).1 = some raw := by
    rw [Engine.get_fst, seen?_of_endless held, Option.map_some]
  have ran := onEngine_of_get? (·.get now key) here
  rw [read] at ran
  exact ⟨_, ran⟩

theorem ttl_of_holds {store : Store} (holds : store.Holds store.current key raw) (now : Instant) :
    ∃ after, backend.ttl now key store = .ok (-1) after := by
  rcases holds with ⟨engine, here, held⟩
  have read : (engine.ttl now key).1 = some (-1) := by
    rw [Engine.ttl_fst, seen?_of_endless held, Option.map_some]
    rfl
  have ran := onEngine_of_get? (·.ttl now key) here
  rw [read] at ran
  exact ⟨_, Step.bind_eq_ok_iff.2 ⟨_, _, ran, rfl⟩⟩

end KeyConsole.Memory
