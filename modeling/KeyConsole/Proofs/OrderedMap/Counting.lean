import KeyConsole.OrderedMap.Lemmas

/-!
# Counting and listing ordered maps

How storing and removing a key change the entries and their number, and when a
sorted list is the list of the keys.
-/

namespace KeyConsole.OrderedMap

universe u v w

variable {κ : Type u} {α : Type v} {β : Type w} [LT κ] [DecidableEq κ] [KeyOrder κ]
  (map : OrderedMap κ α) {key : κ} {value : α}

/-- A filter that every entry passes changes nothing. -/
theorem filter_eq_self {keep : κ → α → Bool}
    (passes : ∀ key value, map.get? key = some value → keep key value = true) :
    map.filter keep = map := by
  apply ext_get?
  intro key
  rw [get?_filter]
  cases found : map.get? key with
  | none => rfl
  | some value => exact Option.filter_some_pos (passes key value found)

omit [KeyOrder κ] in
theorem get?_erase_self : (map.erase key).get? key = none := by
  rw [get?_erase, if_pos rfl]

/-- Removing a key that is not there changes nothing. -/
theorem erase_of_get?_eq_none (missing : map.get? key = none) : map.erase key = map := by
  apply ext_get?
  intro other
  rw [get?_erase]
  split
  · next same => rw [same, missing]
  · rfl

/-- The entry of a key and those of the other keys are all entries. -/
theorem entries_perm_of_get?_eq_some (found : map.get? key = some value) :
    map.entries.Perm ((key, value) :: (map.erase key).entries) := by
  have apart : (key, value) ∉ (map.erase key).entries := by
    rw [← get?_eq_some_iff, get?_erase_self]
    exact nofun
  refine (List.perm_ext_iff_of_nodup map.nodup_entries
    (List.nodup_cons.2 ⟨apart, (map.erase key).nodup_entries⟩)).2 ?_
  rintro ⟨other, stored⟩
  rw [List.mem_cons, ← get?_eq_some_iff, ← get?_eq_some_iff, get?_erase, Prod.mk.injEq]
  by_cases same : other = key
  · subst same
    simp [found, eq_comm]
  · simp [same]

theorem size_erase_add_one (found : map.get? key = some value) :
    (map.erase key).size + 1 = map.size :=
  (map.entries_perm_of_get?_eq_some found).length_eq.symm

section Insertion

variable [DecidableLT κ]

/-- Storing what is there already changes nothing. -/
theorem insert_of_get?_eq_some (found : map.get? key = some value) :
    map.insert key value = map := by
  apply ext_get?
  intro other
  rw [get?_insert]
  split
  · next same => rw [same, found]
  · rfl

theorem erase_insert_self : (map.insert key value).erase key = map.erase key := by
  apply ext_get?
  intro other
  rw [get?_erase, get?_erase, get?_insert]
  split <;> rfl

theorem entries_insert_perm (key : κ) (value : α) :
    (map.insert key value).entries.Perm ((key, value) :: (map.erase key).entries) := by
  have found : (map.insert key value).get? key = some value := by
    rw [get?_insert, if_pos rfl]
  have listed := entries_perm_of_get?_eq_some _ found
  rwa [erase_insert_self] at listed

theorem size_insert_of_get?_eq_none (value : α) (missing : map.get? key = none) :
    (map.insert key value).size = map.size + 1 := by
  have listed := (map.entries_insert_perm key value).length_eq
  rwa [map.erase_of_get?_eq_none missing] at listed

theorem size_insert_of_get?_eq_some (value : α) {old : α} (found : map.get? key = some old) :
    (map.insert key value).size = map.size :=
  (map.entries_insert_perm key value).length_eq.trans
    (map.size_erase_add_one found)

end Insertion

/-! ## Other values under the same keys -/

omit [DecidableEq κ] [KeyOrder κ] in
/-- Change every value. -/
def mapValues (f : α → β) (map : OrderedMap κ α) : OrderedMap κ β where
  entries := map.entries.map fun entry => (entry.1, f entry.2)
  sorted := List.pairwise_map.2 map.sorted

variable (f : α → β)

omit [DecidableEq κ] [KeyOrder κ] in
@[simp]
theorem keys_mapValues : (map.mapValues f).keys = map.keys := by
  simp [keys, mapValues]

omit [DecidableEq κ] [KeyOrder κ] in
@[simp]
theorem size_mapValues : (map.mapValues f).size = map.size := by
  simp [size, mapValues]

@[simp]
theorem get?_mapValues : (map.mapValues f).get? key = (map.get? key).map f := by
  apply Option.ext
  intro value
  rw [get?_eq_some_iff, Option.map_eq_some_iff]
  simp only [mapValues, get?_eq_some_iff, List.mem_map]
  constructor
  · rintro ⟨⟨_, stored⟩, mem, same⟩
    cases same
    exact ⟨stored, mem, rfl⟩
  · rintro ⟨stored, mem, rfl⟩
    exact ⟨(key, stored), mem, rfl⟩

theorem mapValues_insert [DecidableLT κ] :
    (map.insert key value).mapValues f = (map.mapValues f).insert key (f value) := by
  apply ext_get?
  intro other
  rw [get?_mapValues, get?_insert, get?_insert, get?_mapValues]
  split <;> rfl

theorem mapValues_erase : (map.erase key).mapValues f = (map.mapValues f).erase key := by
  apply ext_get?
  intro other
  rw [get?_mapValues, get?_erase, get?_erase, get?_mapValues]
  split <;> rfl

end KeyConsole.OrderedMap
