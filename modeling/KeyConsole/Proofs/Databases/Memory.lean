import KeyConsole.Proofs.Databases.Apart
import KeyConsole.Proofs.Durability.Memory

/-!
# Databases in memory are separate

Every action on items puts one engine in the place of the current one.  An action that
only looks may drop slots that have expired, which are not seen any more.
-/

namespace KeyConsole.Memory

open KeyConsole.Storage

/-- The databases of a store: what is seen in each engine. -/
def view : backend.View where
  catalog store name :=
    (store.databases.get? name).map fun engine now key => engine.seen? now key
  inUseCode := 3
  inUseText name := "database '" ++ name ++ "' is in use"
  Askable _ := True

variable {store : Store} {engine after : Engine} {now : Instant} {α : Type}
  {act : Engine → α × Engine} {name : String}

theorem isSome_catalog_iff :
    (view.catalog store name).isSome = true ↔ store.databases.contains name = true := by
  simp [view, OrderedMap.contains]

theorem isPresent_iff :
    view.IsPresent store ↔ ∃ engine, store.databases.get? store.current = some engine :=
  isSome_catalog_iff.trans (OrderedMap.contains_eq_true_iff _)

/-! ## Actions on the current engine -/

/-- Another engine for the current one leaves the other databases alone. -/
theorem near_replace (store : Store) (after : Engine) :
    view.Near store { store with databases := store.databases.insert store.current after } where
  current := rfl
  present := isPresent_iff.2 ⟨after, by rw [OrderedMap.get?_insert, if_pos rfl]⟩
  others name other := by
    have different : name ≠ store.current := other
    simp only [view]
    rw [OrderedMap.get?_insert, if_neg different]

theorem since_replace (here : store.databases.get? store.current = some engine)
    (seen : ∀ later key, after.seen? (now + later) key = engine.seen? (now + later) key) :
    (view.catalog { store with databases := store.databases.insert store.current after }).since now
      = (view.catalog store).since now := by
  funext name
  simp only [Catalog.since, view]
  rw [OrderedMap.get?_insert]
  split
  · next isCurrent =>
    rw [isCurrent, here]
    simp only [Option.map_some, seen]
  · rfl

theorem reads_onEngine
    (seen : ∀ engine later key, (act engine).2.seen? (now + later) key
      = engine.seen? (now + later) key) :
    (view.confinement now).Reads (onEngine act) := by
  intro store present
  obtain ⟨engine, here⟩ := isPresent_iff.1 present
  rw [onEngine_of_get? act here]
  exact ⟨near_replace store _, since_replace here (seen engine)⟩

theorem writes_onEngine (act : Engine → α × Engine) :
    (view.confinement now).Writes (onEngine act) := by
  intro store present
  obtain ⟨engine, here⟩ := isPresent_iff.1 present
  exact ⟨_, _, onEngine_of_get? act here, near_replace store _⟩

theorem reads_fromEngine (read : Engine → α) :
    (view.confinement now).Reads (fromEngine read) :=
  reads_onEngine fun _ _ _ => rfl

/-- Looking at a key drops its slot only if it is not seen any more. -/
theorem seen?_of_visited {key : Key}
    (visited : ∀ other, after.slot? other
      = if other = key then engine.seen? now key else engine.slot? other)
    (later : Nat) (other : Key) :
    after.seen? (now + later) other = engine.seen? (now + later) other := by
  rw [Engine.seen?, visited]
  split
  · next same => rw [same, engine.seen?_of_le key (Nat.le_add_right now later)]
  · rfl

theorem seen?_cleanupExpired (engine : Engine) (later : Nat) (key : Key) :
    (engine.cleanupExpired now).2.seen? (now + later) key = engine.seen? (now + later) key := by
  rw [Engine.seen?, Engine.slot?_cleanupExpired,
    engine.seen?_of_le key (Nat.le_add_right now later)]

theorem confines_expire (key : Key) (seconds : Nat) :
    (view.confinement now).Confines (expire now key seconds) := by
  intro store present
  obtain ⟨engine, here⟩ := isPresent_iff.1 present
  simp only [expire, here]
  cases engine.expire now key seconds with
  | none =>
    have same : (view.confinement now).same store store :=
      (view.confinement now).same_refl present
    refine ⟨same.1, ?_⟩
    intro halt after halted
    cases halted
    exact same
  | some found =>
    refine ⟨near_replace store _, ?_⟩
    intro halt after halted
    cases halted

theorem reads_count : (view.confinement now).Reads (count now) := by
  apply reads_onEngine
  intro engine later key
  exact seen?_cleanupExpired engine later key

theorem reads_statsText : (view.confinement now).Reads (statsText now) := by
  apply (reads_fromEngine _).bind
  intro figures store present
  exact (view.confinement now).same_refl present

/-! ## Actions on databases -/

theorem contains_of_catalog_eq_none (missing : view.catalog store name = none) :
    store.databases.contains name = false := by
  rw [← Bool.not_eq_true, ← isSome_catalog_iff, missing]
  exact Bool.false_ne_true

/-- A new store has one database, which is empty and current. -/
theorem exists_eq_of_acquire {config : Config} {host after : backend.Host}
    {store : backend.Handle} (acquired : backend.acquire config host = .ok store after) :
    ∃ name, store = ⟨OrderedMap.singleton name (Engine.empty spread), name⟩ := by
  simp only [backend, acquire] at acquired
  split at acquired
  · cases acquired
  · cases acquired
    exact ⟨_, rfl⟩

theorem isPresent_of_acquire {config : Config} {host after : backend.Host}
    {store : backend.Handle} (acquired : backend.acquire config host = .ok store after) :
    view.IsPresent store := by
  obtain ⟨name, rfl⟩ := exists_eq_of_acquire acquired
  exact isPresent_iff.2 ⟨_, by rw [OrderedMap.get?_singleton, if_pos rfl]⟩

theorem createDatabase_of_refused
    (refused : Text.isBlankText name = true ∨ (view.catalog store name).isSome = true) :
    ∃ cause, createDatabase name store = .error (.refused cause) store := by
  unfold createDatabase
  by_cases blank : Text.isBlankText name = true
  · exact ⟨_, if_pos blank⟩
  · have found := isSome_catalog_iff.1 (refused.resolve_left blank)
    exact ⟨_, (if_neg blank).trans (if_pos found)⟩

theorem seen?_empty (now : Instant) (key : Key) : (Engine.empty spread).seen? now key = none := by
  rw [Engine.seen?, Engine.slot?_empty, Option.filter_none]

theorem createDatabase_of_missing (visible : Text.isBlankText name = false)
    (missing : view.catalog store name = none) :
    ∃ after, createDatabase name store = .ok () after ∧ after.current = store.current ∧
      view.catalog after = Function.update (view.catalog store) name (some Catalog.noItems) := by
  refine ⟨{ store with databases := store.databases.insert name (Engine.empty spread) },
    ?_, rfl, ?_⟩
  · simp [createDatabase, visible, contains_of_catalog_eq_none missing]
  · funext other
    simp only [view, Function.update_apply]
    rw [OrderedMap.get?_insert]
    split
    · simp only [Option.map_some, seen?_empty]
      rfl
    · rfl

theorem removeDatabase_of_found (other : name ≠ store.current)
    (found : (view.catalog store name).isSome = true) :
    ∃ after, removeDatabase name store = .ok () after ∧ after.current = store.current ∧
      view.catalog after = Function.update (view.catalog store) name none := by
  refine ⟨{ store with databases := store.databases.erase name }, ?_, rfl, ?_⟩
  · simp [removeDatabase, other, isSome_catalog_iff.1 found]
  · funext name
    simp only [view, Function.update_apply]
    rw [OrderedMap.get?_erase]
    split <;> rfl

theorem removeDatabase_of_missing (other : name ≠ store.current)
    (missing : view.catalog store name = none) :
    removeDatabase name store = .error (.refused (.missingDatabase name)) store := by
  simp [removeDatabase, other, contains_of_catalog_eq_none missing]

theorem selectDatabase_of_missing (missing : view.catalog store name = none) :
    selectDatabase name store = .error (.refused (.missingDatabase name)) store := by
  simp [selectDatabase, contains_of_catalog_eq_none missing]

theorem selectDatabase_of_found (found : (view.catalog store name).isSome = true) :
    ∃ after, selectDatabase name store = .ok () after ∧ after.current = name ∧
      view.catalog after = view.catalog store := by
  refine ⟨{ store with current := name }, ?_, rfl, rfl⟩
  simp [selectDatabase, isSome_catalog_iff.1 found]

/-! ## The backend -/

/-- The backend in memory keeps its databases apart. -/
theorem separates : backend.Separates view where
  acquired := isPresent_of_acquire
  databases store :=
    ⟨store.databases.keys, rfl, fun _ => (OrderedMap.mem_keys_iff _).trans isSome_catalog_iff.symm⟩
  get now key := reads_onEngine fun engine => seen?_of_visited (engine.slot?_get now key)
  keys now := reads_fromEngine _
  rangeKeys now first last limit :=
    (Step.Confinement.reads_pure _).ite
      ((reads_fromEngine _).bind fun _ => Step.Confinement.reads_pure _)
  count now := reads_count
  count_ok now store present := by
    obtain ⟨engine, here⟩ := isPresent_iff.1 present
    have counted : count now store = _ := onEngine_of_get? _ here
    exact ⟨_, _, counted⟩
  statsText now := reads_statsText
  ttl now key :=
    (reads_onEngine fun engine => seen?_of_visited (engine.slot?_ttl now key)).bind fun _ =>
      Step.Confinement.reads_pure _
  extra command own now args := by
    obtain rfl := List.mem_singleton.1 own
    exact (reads_onEngine fun engine => seen?_cleanupExpired engine).bind fun _ =>
      Step.Confinement.reads_pure _
  put now key raw := (writes_onEngine _).bind fun _ => Step.Confinement.writes_pure _
  remove now key := writes_onEngine _
  clear now := writes_onEngine fun engine => ((), engine.flush)
  expire now key seconds := confines_expire key seconds
  createDatabase_refused := createDatabase_of_refused
  createDatabase_ok := createDatabase_of_missing
  removeDatabase_inUse store := if_pos rfl
  removeDatabase_missing _ := removeDatabase_of_missing
  removeDatabase_ok _ := removeDatabase_of_found
  removeDatabase_not_askable _ notAskable := absurd trivial notAskable
  selectDatabase_missing _ := selectDatabase_of_missing
  selectDatabase_ok _ := selectDatabase_of_found
  selectDatabase_not_askable _ notAskable := absurd trivial notAskable

end KeyConsole.Memory
