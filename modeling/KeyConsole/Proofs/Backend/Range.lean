import KeyConsole.Backend.TableFile
import KeyConsole.OrderedMap.Lemmas
import KeyConsole.Proofs.Step

/-!
# Keys in a range

The first keys of a range are collected in two ways.  A walk sees all keys: it passes
over those in front of the range, and stops behind its last key or as soon as there are
enough.  A table is entered at once where the range begins, and its keys are taken until
there are enough or the range ends.  In ascending order both give the same.
-/

namespace KeyConsole

/-- Whether a key is in the range from one key to another. -/
def Key.isBetween (first last key : Key) : Bool :=
  first ≤ key && key ≤ last

variable {first last key : Key} {limit : Nat} {found keys all : List Key}

theorem Key.isBetween_eq_true_iff :
    Key.isBetween first last key = true ↔ first ≤ key ∧ key ≤ last := by
  simp [Key.isBetween]

/-- A range that ends before it begins has no keys. -/
theorem Key.filter_isBetween_of_lt (reversed : last < first) (keys : List Key) :
    keys.filter (Key.isBetween first last) = [] := by
  refine List.filter_eq_nil_iff.2 fun key _ inside => ?_
  obtain ⟨reached, within⟩ := Key.isBetween_eq_true_iff.1 inside
  exact Std.not_le.2 reversed (Std.le_trans reached within)

/-! ## A walk through all keys -/

namespace Backend

theorem visitInRange_of_beyond (beyond : last < key) :
    visitInRange first last limit found key = (found, false) :=
  if_pos beyond

theorem visitInRange_of_inside (within : ¬last < key) (reached : first ≤ key) :
    visitInRange first last limit found key
      = (found ++ [key], decide ((found ++ [key]).length < limit)) := by
  rw [visitInRange, if_neg within, if_pos reached]

theorem visitInRange_of_early (within : ¬last < key) (early : ¬first ≤ key) :
    visitInRange first last limit found key = (found, decide (found.length < limit)) := by
  rw [visitInRange, if_neg within, if_neg early]

theorem collectInRange_cons_of_go {next : List Key}
    (goes : visitInRange first last limit found key = (next, true)) :
    collectInRange first last limit found (key :: keys)
      = collectInRange first last limit next keys := by
  rw [collectInRange, goes]

theorem collectInRange_cons_of_stop {next : List Key}
    (stops : visitInRange first last limit found key = (next, false)) :
    collectInRange first last limit found (key :: keys) = next := by
  rw [collectInRange, stops]

/-- As long as there is room, a walk goes on to the keys of the range that are left. -/
theorem collectInRange_eq (ascending : keys.Pairwise (· < ·)) (room : found.length < limit) :
    collectInRange first last limit found keys
      = (found ++ keys.filter (Key.isBetween first last)).take limit := by
  induction keys generalizing found with
  | nil =>
    rw [List.filter_nil, List.append_nil, List.take_of_length_le (Nat.le_of_lt room)]
    rfl
  | cons key keys ih =>
    obtain ⟨before, ascendingRest⟩ := List.pairwise_cons.1 ascending
    by_cases beyond : last < key
    · -- what follows a key behind the range is behind it, too
      have none : (key :: keys).filter (Key.isBetween first last) = [] := by
        refine List.filter_eq_nil_iff.2 fun other mem inside => ?_
        have within := (Key.isBetween_eq_true_iff.1 inside).2
        rcases List.mem_cons.1 mem with rfl | mem
        · exact Std.not_le.2 beyond within
        · exact Std.not_le.2 (Std.lt_trans beyond (before other mem)) within
      rw [collectInRange_cons_of_stop (visitInRange_of_beyond beyond), none, List.append_nil,
        List.take_of_length_le (Nat.le_of_lt room)]
    · by_cases reached : first ≤ key
      · have inside : Key.isBetween first last key = true :=
          Key.isBetween_eq_true_iff.2 ⟨reached, Std.not_lt.1 beyond⟩
        have visited := @visitInRange_of_inside first last key limit found beyond reached
        rw [List.filter_cons_of_pos inside, List.append_cons]
        by_cases still : (found ++ [key]).length < limit
        · rw [decide_eq_true still] at visited
          rw [collectInRange_cons_of_go visited, ih ascendingRest still]
        · rw [decide_eq_false still] at visited
          have full : (found ++ [key]).length = limit := by
            rw [List.length_append, List.length_singleton] at still ⊢
            omega
          rw [collectInRange_cons_of_stop visited, List.take_left' full]
      · have outside : ¬Key.isBetween first last key = true := fun inside =>
          reached (Key.isBetween_eq_true_iff.1 inside).1
        have visited := @visitInRange_of_early first last key limit found beyond reached
        rw [decide_eq_true room] at visited
        rw [List.filter_cons_of_neg outside, collectInRange_cons_of_go visited,
          ih ascendingRest room]

/-- On any backend that lists its keys in ascending order, a walk through them finds the
first keys of a range, and does no more than to list the keys. -/
theorem walkRange_eq_ok {handle : Type} {listing : HandleAction handle (List Key)}
    {before after : handle} (listed : listing before = .ok all after)
    (ascending : all.Pairwise (· < ·)) (first last : Key) (limit : Nat) :
    ∃ held, walkRange listing first last limit before
        = .ok ((all.filter (Key.isBetween first last)).take limit) held ∧
      (held = before ∨ held = after) := by
  unfold walkRange
  by_cases none : limit = 0
  · rw [if_pos none, none, List.take_zero]
    exact ⟨before, rfl, .inl rfl⟩
  · have room : ([] : List Key).length < limit := Nat.pos_of_ne_zero none
    rw [if_neg none, Step.bind_of_ok listed, collectInRange_eq ascending room, List.nil_append]
    exact ⟨after, rfl, .inr rfl⟩

/-- Where a listing changes nothing, neither does a walk. -/
theorem walkRange_of_unchanged {handle : Type} {listing : HandleAction handle (List Key)}
    {before : handle} (listed : listing before = .ok all before)
    (ascending : all.Pairwise (· < ·)) (first last : Key) (limit : Nat) :
    walkRange listing first last limit before
      = .ok ((all.filter (Key.isBetween first last)).take limit) before := by
  obtain ⟨held, walked, same⟩ := walkRange_eq_ok listed ascending first last limit
  obtain rfl : held = before := same.elim id id
  exact walked

end Backend

/-! ## A range of a table -/

namespace TableFile

theorem dropWhile_eq_filter (ascending : keys.Pairwise (· < ·)) (first : Key) :
    (keys.dropWhile fun key => decide (key < first))
      = keys.filter fun key => decide (first ≤ key) := by
  induction keys with
  | nil => rfl
  | cons key keys ih =>
    obtain ⟨before, ascendingRest⟩ := List.pairwise_cons.1 ascending
    by_cases early : key < first
    · have skipped : ¬first ≤ key := Std.not_le.2 early
      simp [early, skipped, ih ascendingRest]
    · have reached : first ≤ key := Std.not_lt.1 early
      rw [List.dropWhile_cons_of_neg (by simpa using early)]
      refine (List.filter_eq_self.2 fun other mem => decide_eq_true ?_).symm
      rcases List.mem_cons.1 mem with rfl | mem
      · exact reached
      · exact Std.le_trans reached (Std.le_of_lt (before other mem))

theorem takeWhile_eq_filter (ascending : keys.Pairwise (· < ·)) (last : Key) :
    (keys.takeWhile fun key => decide (key ≤ last))
      = keys.filter fun key => decide (key ≤ last) := by
  induction keys with
  | nil => rfl
  | cons key keys ih =>
    obtain ⟨before, ascendingRest⟩ := List.pairwise_cons.1 ascending
    by_cases within : key ≤ last
    · simp [within, ih ascendingRest]
    · rw [List.takeWhile_cons_of_neg (by simpa using within)]
      refine (List.filter_eq_nil_iff.2 fun other mem inside => within ?_).symm
      rcases List.mem_cons.1 mem with rfl | mem
      · exact of_decide_eq_true inside
      · exact Std.le_trans (Std.le_of_lt (before other mem)) (of_decide_eq_true inside)

theorem keysBetween_eq (table : Table) (first last : Key) :
    keysBetween table first last = table.keys.filter (Key.isBetween first last) := by
  have ascending := table.sorted_keys
  rw [keysBetween, dropWhile_eq_filter ascending, takeWhile_eq_filter (ascending.filter _),
    List.filter_filter]
  apply List.filter_congr
  intro key _
  exact Bool.and_comm _ _

/-- As long as there is room, keys are taken. -/
theorem collect_eq (room : found.length < limit) :
    collect limit found keys = (found ++ keys).take limit := by
  induction keys generalizing found with
  | nil =>
    rw [List.append_nil, List.take_of_length_le (Nat.le_of_lt room)]
    rfl
  | cons key keys ih =>
    rw [List.append_cons found key keys, collect]
    split
    · next full => rw [List.take_left' full]
    · next still =>
      apply ih
      rw [List.length_append, List.length_singleton] at still ⊢
      omega

/-- A table finds the first keys of a range. -/
theorem rangeKeys_eq_ok {file : OpenFile} {table : Table}
    (here : file.tables.get? file.current = some table) (first last : Key) (limit : Nat) :
    rangeKeys first last limit file
      = .ok ((table.keys.filter (Key.isBetween first last)).take limit) file := by
  unfold rangeKeys
  by_cases none : limit = 0
  · rw [if_pos (Or.inl none), none, List.take_zero]
    rfl
  · by_cases reversed : last < first
    · rw [if_pos (Or.inr reversed), Key.filter_isBetween_of_lt reversed, List.take_nil]
      rfl
    · have room : ([] : List Key).length < limit := Nat.pos_of_ne_zero none
      rw [if_neg (not_or.2 ⟨none, reversed⟩)]
      simp only [fromTable, here]
      rw [collect_eq room, keysBetween_eq, List.nil_append]

end TableFile

end KeyConsole
