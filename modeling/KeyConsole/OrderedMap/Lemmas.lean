import KeyConsole.OrderedMap

/-!
# Reading ordered maps

What every operation on an ordered map does to the values under its keys.
`get?_eq_some_iff` says that reading a key finds the entries and nothing else,
and `ext_get?` that a map is determined by what is read from it.
-/

namespace KeyConsole.OrderedMap

universe u v

variable {κ : Type u} {α : Type v}

/-! ## Lists of entries -/

section Entries

variable [DecidableEq κ]

theorem mem_of_find_eq_some {key : κ} {value : α} {entries : List (κ × α)}
    (found : find key entries = some value) : (key, value) ∈ entries := by
  induction entries with
  | nil => cases found
  | cons head rest ih =>
    unfold find at found
    split at found
    · next same =>
      cases found
      exact same ▸ List.mem_cons_self
    · exact List.mem_cons_of_mem _ (ih found)

theorem find_eq_none_iff {key : κ} {entries : List (κ × α)} :
    find key entries = none ↔ ∀ entry ∈ entries, entry.1 ≠ key := by
  induction entries with
  | nil => simp [find]
  | cons head rest ih =>
    by_cases same : head.1 = key
    · simp [find, same]
    · simp [find, same, ih]

theorem find_filter_ne (key erased : κ) (entries : List (κ × α)) :
    find key (entries.filter fun entry => entry.1 ≠ erased)
      = if key = erased then none else find key entries := by
  induction entries with
  | nil => simp [find]
  | cons head rest ih =>
    by_cases gone : head.1 = erased
    · by_cases same : key = erased
      · simp_all
      · have other : ¬ erased = key := fun h => same h.symm
        simp_all [find]
    · by_cases same : key = erased
      · subst same
        simp_all [find]
      · simp_all [find]

theorem find_place [LT κ] [DecidableLT κ] (key other : κ) (value : α) (entries : List (κ × α)) :
    find other (place key value entries)
      = if other = key then some value else find other entries := by
  induction entries with
  | nil => simp [place, find, eq_comm]
  | cons head rest ih =>
    unfold place
    split
    · simp [find, eq_comm]
    · split
      · next same =>
        subst same
        by_cases found : other = head.1
        · simp [find, found]
        · have unfound : ¬ head.1 = other := fun h => found h.symm
          simp [find, found, unfound]
      · next different =>
        by_cases found : head.1 = other
        · subst found
          simp [find, different]
        · simp [find, found, ih]

end Entries

/-! ## Values under keys -/

variable [LT κ] [DecidableEq κ] (map : OrderedMap κ α)

@[simp]
theorem get?_empty (key : κ) : (empty : OrderedMap κ α).get? key = none :=
  rfl

theorem contains_eq_true_iff {key : κ} :
    map.contains key = true ↔ ∃ value, map.get? key = some value :=
  Option.isSome_iff_exists

theorem get?_erase (key other : κ) :
    (map.erase key).get? other = if other = key then none else map.get? other :=
  find_filter_ne other key map.entries

variable [KeyOrder κ]

omit [DecidableEq κ] in
/-- Entries with one key are the same entry. -/
theorem eq_of_mem_of_mem {key : κ} {first second : α} (memFirst : (key, first) ∈ map.entries)
    (memSecond : (key, second) ∈ map.entries) : first = second := by
  have sorted := map.sorted
  generalize map.entries = entries at memFirst memSecond sorted
  induction entries with
  | nil => cases memFirst
  | cons head rest ih =>
    obtain ⟨before, sortedRest⟩ := List.pairwise_cons.1 sorted
    rcases List.mem_cons.1 memFirst with isHead | memFirst
    · rcases List.mem_cons.1 memSecond with isHead' | memSecond
      · exact congrArg Prod.snd (isHead.trans isHead'.symm)
      · exact absurd (before _ memSecond) (isHead ▸ KeyOrder.irrefl key)
    · rcases List.mem_cons.1 memSecond with isHead | memSecond
      · exact absurd (before _ memFirst) (isHead ▸ KeyOrder.irrefl key)
      · exact ih memFirst memSecond sortedRest

/-- Reading a key finds its entry. -/
theorem get?_eq_some_iff {key : κ} {value : α} :
    map.get? key = some value ↔ (key, value) ∈ map.entries := by
  refine ⟨mem_of_find_eq_some, fun mem => ?_⟩
  cases found : map.get? key with
  | none => exact absurd rfl (find_eq_none_iff.1 found _ mem)
  | some other => rw [map.eq_of_mem_of_mem mem (mem_of_find_eq_some found)]

theorem mem_keys_iff {key : κ} : key ∈ map.keys ↔ map.contains key = true := by
  rw [contains_eq_true_iff]
  simp [keys, get?_eq_some_iff]

omit [DecidableEq κ] [KeyOrder κ] in
/-- The keys ascend. -/
theorem sorted_keys : map.keys.Pairwise (· < ·) :=
  List.pairwise_map.2 map.sorted

omit [DecidableEq κ] in
theorem nodup_entries : map.entries.Nodup := by
  refine map.sorted.imp fun {first second} less => ?_
  rintro rfl
  exact KeyOrder.irrefl first.1 less

theorem get?_filter (keep : κ → α → Bool) (key : κ) :
    (map.filter keep).get? key = (map.get? key).filter (keep key) := by
  refine Option.ext fun value => ?_
  rw [get?_eq_some_iff, Option.filter_eq_some_iff, get?_eq_some_iff]
  exact List.mem_filter

/-- A map is determined by the values under its keys. -/
theorem ext_get? {first second : OrderedMap κ α}
    (same : ∀ key, first.get? key = second.get? key) : first = second := by
  refine ext (List.Perm.eq_of_pairwise (fun a b _ _ less greater => ?_) first.sorted second.sorted
    ((List.perm_ext_iff_of_nodup first.nodup_entries second.nodup_entries).2 fun entry => ?_))
  · exact absurd (KeyOrder.trans less greater) (KeyOrder.irrefl a.1)
  · rw [← first.get?_eq_some_iff, ← second.get?_eq_some_iff, same]

section Insertion

variable [DecidableLT κ]

theorem get?_insert (key other : κ) (value : α) :
    (map.insert key value).get? other = if other = key then some value else map.get? other :=
  find_place key other value map.entries

omit [KeyOrder κ] [DecidableLT κ] in
theorem get?_singleton (key other : κ) (value : α) :
    (singleton key value).get? other = if other = key then some value else none := by
  simp [get?, singleton, find, eq_comm]

end Insertion

end KeyConsole.OrderedMap
