import KeyConsole.Proofs.Databases.Apart
import KeyConsole.Proofs.Durability.TableFile

/-!
# Databases in a file are separate

Reading a table leaves the file as it is, and writing puts a table in the place of the
current one.  The empty name can neither be given to a table nor looked up.
-/

namespace KeyConsole.TableFile

open KeyConsole.Storage

/-- The databases of an open file: the entries of each table, without deadlines. -/
def view : backend.View where
  catalog file name :=
    (file.tables.get? name).map fun table _ key => (table.get? key).map fun raw => ⟨raw, none⟩
  inUseCode := 4
  inUseText name := "table '" ++ name ++ "' is in use"
  Askable name := name ≠ ""

variable {file : OpenFile} {now : Instant} {α : Type} {name : String}

theorem isSome_catalog_iff :
    (view.catalog file name).isSome = true ↔ file.tables.contains name = true := by
  simp [view, OrderedMap.contains]

theorem contains_of_catalog_eq_none (missing : view.catalog file name = none) :
    file.tables.contains name = false := by
  rw [← Bool.not_eq_true, ← isSome_catalog_iff, missing]
  exact Bool.false_ne_true

/-! ## Actions on the current table -/

theorem reads_fromTable (read : Table → α) : (view.confinement now).Reads (fromTable read) :=
  Step.Confinement.reads_of_finalState_eq fun file : OpenFile =>
    @keeps_fromTable α read (· = file) file rfl

theorem reads_statsText : (view.confinement now).Reads (statsText now) :=
  (reads_fromTable OrderedMap.size).bind fun _ =>
    Step.Confinement.reads_of_finalState_eq fun _ => rfl

/-- Another table for the current one leaves the others alone. -/
theorem near_replace (file : OpenFile) (table : Table) :
    view.Near file { file with tables := file.tables.insert file.current table } where
  current := rfl
  present := by
    have found : (file.tables.insert file.current table).contains file.current = true :=
      (OrderedMap.contains_eq_true_iff _).2 ⟨table, by rw [OrderedMap.get?_insert, if_pos rfl]⟩
    exact isSome_catalog_iff.2 found
  others name other := by
    have different : name ≠ file.current := other
    simp only [view]
    rw [OrderedMap.get?_insert, if_neg different]

theorem writes_onTable (act : Table → α × Table) :
    (view.confinement now).Writes (onTable act) :=
  fun file _ => ⟨_, _, rfl, near_replace file _⟩

/-! ## Actions on databases -/

theorem contains_withDefault (tables : Tables) :
    (withDefault tables).contains defaultTable = true := by
  unfold withDefault
  split
  · next found => exact found
  · exact (OrderedMap.contains_eq_true_iff _).2
      ⟨OrderedMap.empty, by rw [OrderedMap.get?_insert, if_pos rfl]⟩

theorem isPresent_of_acquire {config : Config} {host after : Host}
    (acquired : acquire config host = .ok file after) : view.IsPresent file := by
  have found : file.tables.contains file.current = true := by
    unfold acquire at acquired
    dsimp only at acquired
    repeat' split at acquired
    all_goals cases acquired
    all_goals exact contains_withDefault _
  exact isSome_catalog_iff.2 found

theorem count_of_isPresent (present : view.IsPresent file) :
    ∃ size after, count file = .ok size after := by
  obtain ⟨table, here⟩ :=
    (OrderedMap.contains_eq_true_iff _).1 (isSome_catalog_iff.1 present)
  have here : file.tables.get? file.current = some table := here
  exact ⟨table.size, file, by simp only [count, fromTable, here]⟩

theorem createDatabase_of_refused
    (refused : Text.isBlankText name = true ∨ (view.catalog file name).isSome = true) :
    ∃ cause, createDatabase name file = .error (.refused cause) file := by
  unfold createDatabase
  by_cases blank : Text.isBlankText name = true
  · exact ⟨_, if_pos blank⟩
  · have found := isSome_catalog_iff.1 (refused.resolve_left blank)
    exact ⟨_, (if_neg blank).trans (if_pos found)⟩

theorem createDatabase_of_missing (visible : Text.isBlankText name = false)
    (missing : view.catalog file name = none) :
    ∃ after, createDatabase name file = .ok () after ∧ after.current = file.current ∧
      view.catalog after = Function.update (view.catalog file) name (some Catalog.noItems) := by
  refine ⟨{ file with tables := file.tables.insert name OrderedMap.empty }, ?_, rfl, ?_⟩
  · simp [createDatabase, visible, contains_of_catalog_eq_none missing]
  · funext other
    simp only [view, Function.update_apply]
    rw [OrderedMap.get?_insert]
    split <;> rfl

theorem removeDatabase_of_found (askable : name ≠ "") (other : name ≠ file.current)
    (found : (view.catalog file name).isSome = true) :
    ∃ after, removeDatabase name file = .ok () after ∧ after.current = file.current ∧
      view.catalog after = Function.update (view.catalog file) name none := by
  refine ⟨{ file with tables := file.tables.erase name }, ?_, rfl, ?_⟩
  · simp [removeDatabase, other, askable, isSome_catalog_iff.1 found]
  · funext name
    simp only [view, Function.update_apply]
    rw [OrderedMap.get?_erase]
    split <;> rfl

theorem removeDatabase_of_missing (askable : name ≠ "") (other : name ≠ file.current)
    (missing : view.catalog file name = none) :
    removeDatabase name file = .error (.refused (.missingDatabase name)) file := by
  simp [removeDatabase, other, askable, contains_of_catalog_eq_none missing]

theorem removeDatabase_of_empty (file : OpenFile) (empty : ¬name ≠ "") :
    ∃ halt, removeDatabase name file = .error halt file := by
  obtain rfl := not_not.1 empty
  unfold removeDatabase
  split
  · exact ⟨_, rfl⟩
  · exact ⟨_, rfl⟩

theorem selectDatabase_of_missing (askable : name ≠ "")
    (missing : view.catalog file name = none) :
    selectDatabase name file = .error (.refused (.missingDatabase name)) file := by
  simp [selectDatabase, askable, contains_of_catalog_eq_none missing]

theorem selectDatabase_of_found (askable : name ≠ "")
    (found : (view.catalog file name).isSome = true) :
    ∃ after, selectDatabase name file = .ok () after ∧ after.current = name ∧
      view.catalog after = view.catalog file := by
  refine ⟨{ file with current := name }, ?_, rfl, rfl⟩
  simp [selectDatabase, askable, isSome_catalog_iff.1 found]

theorem selectDatabase_of_empty (file : OpenFile) (empty : ¬name ≠ "") :
    ∃ halt, selectDatabase name file = .error halt file := by
  obtain rfl := not_not.1 empty
  exact ⟨.broken, rfl⟩

/-! ## The backend -/

/-- The backend in a file keeps its databases apart. -/
theorem separates : backend.Separates view where
  acquired := isPresent_of_acquire
  databases file :=
    ⟨file.tables.keys, rfl, fun _ => (OrderedMap.mem_keys_iff _).trans isSome_catalog_iff.symm⟩
  get now key := reads_fromTable _
  keys now := reads_fromTable _
  rangeKeys now first last limit := (Step.Confinement.reads_pure _).ite (reads_fromTable _)
  count now := reads_fromTable OrderedMap.size
  count_ok now file := count_of_isPresent
  statsText now := reads_statsText
  ttl now key := Step.Confinement.reads_pure _
  extra command own now args := by cases own
  put now key raw := writes_onTable fun table => ((), table.insert key raw)
  remove now key := writes_onTable fun table => (table.contains key, table.erase key)
  clear now := writes_onTable fun _ => ((), OrderedMap.empty)
  expire now key seconds := (Step.Confinement.reads_pure _).confines
  createDatabase_refused := createDatabase_of_refused
  createDatabase_ok := createDatabase_of_missing
  removeDatabase_inUse file := if_pos rfl
  removeDatabase_missing := removeDatabase_of_missing
  removeDatabase_ok := removeDatabase_of_found
  removeDatabase_not_askable := removeDatabase_of_empty
  selectDatabase_missing := selectDatabase_of_missing
  selectDatabase_ok := selectDatabase_of_found
  selectDatabase_not_askable := selectDatabase_of_empty

end KeyConsole.TableFile
