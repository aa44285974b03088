import Mathlib.Tactic.SplitIfs
import KeyConsole.OrderedMap.Lemmas
import KeyConsole.Backend.TableFile
import KeyConsole.Proofs.Durability.Custody

/-!
# Items that stay in a file

While a file is open, no action that spares an item touches its table entry.
Closing the file leaves its tables where it was opened, and opening it again by
any path that leads there finds them.
-/

namespace KeyConsole.TableFile

/-- Bytes are stored under a key in the table of a name. -/
def Holds (database : String) (key : Key) (raw : Bytes) (tables : Tables) : Prop :=
  ∃ table, tables.get? database = some table ∧ table.get? key = some raw

/-- A file at a location is open, and bytes are stored in it. -/
def OpenFile.Holds (location : Location) (database : String) (key : Key) (raw : Bytes)
    (file : OpenFile) : Prop :=
  file.location = location ∧ TableFile.Holds database key raw file.tables

variable {location : Location} {database current : String} {key : Key} {raw : Bytes}

/-! ## Actions on an open file -/

/-- What is held while a table stays current. -/
def Retains (location : Location) (database : String) (key : Key) (raw : Bytes)
    (current : String) (file : OpenFile) : Prop :=
  file.Holds location database key raw ∧ file.current = current

theorem keeps_fromTable {α : Type} (read : Table → α) {property : OpenFile → Prop} :
    Step.Keeps property (fromTable read) := by
  intro file holds
  unfold fromTable
  split
  · exact holds
  · exact holds

theorem keeps_onTable {α : Type} {act : Table → α × Table}
    (kept : current = database → ∀ table : Table, table.get? key = some raw →
      (act table).2.get? key = some raw) :
    Step.Keeps (Retains location database key raw current) (onTable act) := by
  rintro file ⟨⟨isLocation, table, found, stored⟩, isCurrent⟩
  refine ⟨⟨isLocation, ?_⟩, isCurrent⟩
  by_cases same : database = file.current
  · have isTable : (file.tables.get? file.current).getD OrderedMap.empty = table := by
      rw [← same, found, Option.getD_some]
    refine ⟨(act table).2, ?_, kept (isCurrent ▸ same.symm) table stored⟩
    change (file.tables.insert file.current _).get? database = _
    rw [OrderedMap.get?_insert, if_pos same, isTable]
  · refine ⟨table, ?_, stored⟩
    change (file.tables.insert file.current _).get? database = _
    rw [OrderedMap.get?_insert, if_neg same, found]

theorem keeps_put {wanted : Key} (bytes : Bytes) (spares : current = database → wanted ≠ key) :
    Step.Keeps (Retains location database key raw current)
      (onTable fun table => ((), table.insert wanted bytes)) := by
  apply keeps_onTable
  intro here table stored
  rw [OrderedMap.get?_insert, if_neg (spares here).symm, stored]

theorem keeps_remove {wanted : Key} (spares : current = database → wanted ≠ key) :
    Step.Keeps (Retains location database key raw current)
      (onTable fun table => (table.contains wanted, table.erase wanted)) := by
  apply keeps_onTable
  intro here table stored
  rw [OrderedMap.get?_erase, if_neg (spares here).symm, stored]

theorem keeps_clear (spares : current ≠ database) :
    Step.Keeps (Retains location database key raw current)
      (onTable fun _ => ((), OrderedMap.empty)) :=
  keeps_onTable fun here _ _ => absurd here spares

theorem keeps_createDatabase (name : String) :
    Step.Keeps (Retains location database key raw current) (createDatabase name) := by
  intro file retains
  unfold createDatabase
  split
  · exact retains
  · split
    · exact retains
    · next missing =>
      rcases retains with ⟨⟨isLocation, table, found, stored⟩, isCurrent⟩
      have other : database ≠ name := by
        rintro rfl
        exact missing ((OrderedMap.contains_eq_true_iff _).2 ⟨table, found⟩)
      have still : (file.tables.insert name OrderedMap.empty).get? database = some table := by
        rw [OrderedMap.get?_insert, if_neg other, found]
      exact ⟨⟨isLocation, table, still, stored⟩, isCurrent⟩

theorem keeps_removeDatabase {name : String} (spares : name ≠ database) :
    Step.Keeps (Retains location database key raw current) (removeDatabase name) := by
  intro file retains
  unfold removeDatabase
  split
  · exact retains
  · split
    · exact retains
    · split
      · rcases retains with ⟨⟨isLocation, table, found, stored⟩, isCurrent⟩
        have still : (file.tables.erase name).get? database = some table := by
          rw [OrderedMap.get?_erase, if_neg spares.symm, found]
        exact ⟨⟨isLocation, table, still, stored⟩, isCurrent⟩
      · exact retains

theorem keeps_selectDatabase (name : String) :
    Step.Keeps (OpenFile.Holds location database key raw) (selectDatabase name) := by
  intro file holds
  unfold selectDatabase
  split
  · exact holds
  · split
    · exact holds
    · exact holds

/-- No action that spares an item takes it away. -/
theorem custody (location : Location) (database : String) (key : Key) (raw : Bytes) :
    Custody backend database key (OpenFile.Holds location database key raw) where
  kept := by
    intro primitive current other spares now
    cases primitive with
    | get wanted => exact keeps_fromTable _
    | put wanted bytes => exact keeps_put bytes spares
    | remove wanted => exact keeps_remove spares
    | keys => exact keeps_fromTable _
    | rangeKeys first last limit =>
      exact Step.Keeps.ite (fun _ => Step.keeps_pure _) fun _ => keeps_fromTable _
    | count => exact keeps_fromTable _
    | clear => exact keeps_clear spares
    | databases => exact fun _ holds => holds
    | createDatabase name => exact keeps_createDatabase name
    | removeDatabase name => exact keeps_removeDatabase spares
    | selectDatabase name => exact absurd rfl (other name)
    | statsText => exact (keeps_fromTable _).bind fun _ _ holds => holds
    | expire wanted seconds => exact fun _ holds => holds
    | ttl wanted => exact fun _ holds => holds
    | extra command own args => cases own
  select name _ := keeps_selectDatabase name

/-- No action moves an open file. -/
theorem keeps_location (primitive : Primitive backend) :
    primitive.Keeps fun file : OpenFile => file.location = location := by
  intro now
  cases primitive with
  | put | remove | clear | databases | expire | ttl => exact fun _ isLocation => isLocation
  | get | keys | count => exact keeps_fromTable _
  | rangeKeys =>
    exact Step.Keeps.ite (fun _ => Step.keeps_pure _) fun _ => keeps_fromTable _
  | createDatabase | removeDatabase | selectDatabase =>
    intro file isLocation
    simp only [Primitive.after, backend, createDatabase, removeDatabase, selectDatabase]
    split_ifs <;> exact isLocation
  | statsText => exact (keeps_fromTable _).bind fun _ _ holds => holds
  | extra command own => cases own

/-! ## Storing and reading -/

/-- What has been stored is held in the current table. -/
theorem holds_of_put {now : Instant} {file after : OpenFile}
    (put : backend.put now key raw file = .ok () after) :
    after.Holds file.location file.current key raw := by
  cases put
  have found (table : Table) : (file.tables.insert file.current table).get? file.current
      = some table := by
    rw [OrderedMap.get?_insert, if_pos rfl]
  have stored (table : Table) : (table.insert key raw).get? key = some raw := by
    rw [OrderedMap.get?_insert, if_pos rfl]
  exact ⟨rfl, _, found _, stored _⟩

theorem get_of_holds {file : OpenFile} (holds : file.Holds location file.current key raw)
    (now : Instant) : ∃ after, backend.get now key file = .ok (some raw) after := by
  rcases holds with ⟨_, table, found, stored⟩
  have read : fromTable (·.get? key) file = .ok (some raw) file := by
    simp only [fromTable, found, stored]
  exact ⟨file, read⟩

end KeyConsole.TableFile
