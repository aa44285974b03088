import KeyConsole.Proofs.Value.Equality

/-!
# Sets made of distinct members

A set is made of values by keeping the first of those that are equal to each other.  What
is kept represents all of them, so two sets that are made in this way are equal just when
each value that went into either has an equal among those that went into the other.
-/

namespace KeyConsole

/-- Values no two of which are equal are not more than values among which each of them has
an equal. -/
theorem length_le_of_forall_exists_beq {α : Type} [BEq α] [PartialEquivBEq α] {xs ys : List α}
    (apart : xs.Pairwise fun x y => (x == y) = false)
    (covered : ∀ x ∈ xs, ∃ y ∈ ys, (x == y) = true) : xs.length ≤ ys.length := by
  induction xs generalizing ys with
  | nil => exact Nat.zero_le _
  | cons x xs ih =>
    rcases List.pairwise_cons.1 apart with ⟨different, apart⟩
    rcases covered x List.mem_cons_self with ⟨y, mem, equal⟩
    rcases List.append_of_mem mem with ⟨front, back, rfl⟩
    -- what is equal to the first value is equal to none of the others
    have coveredByRest : ∀ other ∈ xs, ∃ z ∈ front ++ back, (other == z) = true := by
      intro other memOther
      rcases covered other (List.mem_cons_of_mem _ memOther) with ⟨z, memZ, equalZ⟩
      have isOther : z ≠ y := by
        rintro rfl
        have equalOther : (x == other) = true := PartialEquivBEq.trans equal (BEq.symm equalZ)
        exact Bool.false_ne_true ((different other memOther).symm.trans equalOther)
      rw [List.mem_append, List.mem_cons] at memZ
      simp only [isOther, false_or] at memZ
      exact ⟨z, List.mem_append.2 memZ, equalZ⟩
    have shorter := ih apart coveredByRest
    simp only [List.length_append, List.length_cons] at shorter ⊢
    omega

namespace Value

/-- What is kept of values: the first of those that are equal to each other, in the order
in which they are seen. -/
structure Firsts (all kept : List Value) : Prop where
  sublist : kept.Sublist all
  apart : kept.Pairwise fun x y => (x == y) = false
  /-- What is kept is the first value that is equal to it. -/
  first : ∀ x ∈ kept, all.find? (· == x) = some x
  covered : ∀ x ∈ all, ∃ y ∈ kept, (x == y) = true

variable {all kept xs ys : List Value} {x : Value}

theorem firsts_nil : Firsts [] [] where
  sublist := List.Sublist.refl []
  apart := .nil
  first := List.forall_mem_nil _
  covered := List.forall_mem_nil _

theorem Firsts.find?_append (firsts : Firsts all kept) (more : List Value) {y : Value}
    (mem : y ∈ kept) : (all ++ more).find? (· == y) = some y := by
  rw [List.find?_append, firsts.first y mem]
  rfl

/-- A value that has an equal among those that are kept is dropped. -/
theorem Firsts.drop (firsts : Firsts all kept) (found : hasEqual kept x = true) :
    Firsts (all ++ [x]) kept where
  sublist := firsts.sublist.trans (List.sublist_append_left _ _)
  apart := firsts.apart
  first y mem := firsts.find?_append _ mem
  covered := by
    intro y mem
    rw [List.mem_append, List.mem_singleton] at mem
    rcases mem with mem | rfl
    · exact firsts.covered y mem
    · rcases hasEqual_iff.1 found with ⟨z, memZ, equal⟩
      exact ⟨z, memZ, same_symm equal⟩

/-- A value that has none is kept behind the others. -/
theorem Firsts.keep (firsts : Firsts all kept) (equal : (x == x) = true)
    (missing : hasEqual kept x = false) : Firsts (all ++ [x]) (kept ++ [x]) := by
  have different (y : Value) (mem : y ∈ kept) : (y == x) = false := by
    apply Bool.eq_false_iff.2
    intro equalX
    exact Bool.false_ne_true (missing.symm.trans (hasEqual_iff.2 ⟨y, mem, equalX⟩))
  have unseen : all.find? (· == x) = none := by
    rw [List.find?_eq_none]
    intro y mem equalX
    rcases firsts.covered y mem with ⟨z, memZ, equalZ⟩
    have equalBoth : (z == x) = true := PartialEquivBEq.trans (BEq.symm equalZ) equalX
    exact Bool.false_ne_true ((different z memZ).symm.trans equalBoth)
  constructor
  · exact firsts.sublist.append (List.Sublist.refl [x])
  · rw [List.pairwise_append]
    constructor
    · exact firsts.apart
    · constructor
      · exact List.pairwise_singleton _ _
      · intro y mem z isX
        rw [List.mem_singleton.1 isX]
        exact different y mem
  · intro y mem
    rw [List.mem_append, List.mem_singleton] at mem
    rcases mem with mem | rfl
    · exact firsts.find?_append _ mem
    · have found : [y].find? (· == y) = some y := List.find?_cons_of_pos equal
      rw [List.find?_append, unseen, found]
      rfl
  · intro y mem
    rw [List.mem_append, List.mem_singleton] at mem
    rcases mem with mem | rfl
    · rcases firsts.covered y mem with ⟨z, memZ, equalZ⟩
      exact ⟨z, List.mem_append_left _ memZ, equalZ⟩
    · exact ⟨y, List.mem_append_right _ List.mem_cons_self, equal⟩

/-- Seeing more values keeps the firsts of all of them. -/
theorem Firsts.distinctFrom (firsts : Firsts all kept) (clean : ∀ x ∈ xs, ¬x.HasNaN) :
    Firsts (all ++ xs) (distinctFrom kept xs) := by
  induction xs generalizing all kept with
  | nil => rwa [List.append_nil]
  | cons x xs ih =>
    rcases List.forall_mem_cons.1 clean with ⟨cleanFirst, cleanRest⟩
    rw [Value.distinctFrom, List.append_cons]
    split
    · next found => exact ih (firsts.drop found) cleanRest
    · next missing =>
      have equal : (x == x) = true := (same_self_iff x).2 cleanFirst
      exact ih (firsts.keep equal (Bool.eq_false_iff.2 missing)) cleanRest

/-- A set is made of the firsts of its values. -/
theorem firsts_distinct (clean : ∀ x ∈ xs, ¬x.HasNaN) : Firsts xs (distinctFrom [] xs) :=
  firsts_nil.distinctFrom clean

/-- Nothing is dropped of values no two of which are equal. -/
theorem distinctFrom_of_apart (apart : (kept ++ xs).Pairwise fun x y => (x == y) = false) :
    distinctFrom kept xs = kept ++ xs := by
  induction xs generalizing kept with
  | nil => rw [distinctFrom, List.append_nil]
  | cons x xs ih =>
    have missing : hasEqual kept x = false := by
      apply Bool.eq_false_iff.2
      intro found
      rcases hasEqual_iff.1 found with ⟨y, mem, equal⟩
      have different := (List.pairwise_append.1 apart).2.2 y mem x List.mem_cons_self
      exact Bool.false_ne_true (different.symm.trans equal)
    rw [List.append_cons] at apart
    rw [distinctFrom, missing, if_neg Bool.false_ne_true, ih apart]
    exact (List.append_cons kept x xs).symm

theorem Firsts.setOf_eq (firsts : Firsts all kept) : setOf kept = set kept := by
  have apart : ([] ++ kept).Pairwise fun x y => (x == y) = false := firsts.apart
  rw [setOf, distinctFrom_of_apart apart, List.nil_append]

/-! ## Equal sets -/

/-- What represents values has an equal for each that has an equal among these values. -/
theorem Firsts.exists_beq (firsts : Firsts all kept)
    (found : ∃ y ∈ all, (x == y) = true) : ∃ y ∈ kept, (x == y) = true := by
  rcases found with ⟨y, mem, equal⟩
  rcases firsts.covered y mem with ⟨z, memZ, equalZ⟩
  exact ⟨z, memZ, PartialEquivBEq.trans equal equalZ⟩

/-- Sets of firsts are equal when the values are the same up to equality. -/
theorem set_beq_iff_of_firsts {keptToo : List Value} (firsts : Firsts xs kept)
    (firstsToo : Firsts ys keptToo) :
    (set kept == set keptToo) = true ↔
      (∀ x ∈ xs, ∃ y ∈ ys, (x == y) = true) ∧ ∀ y ∈ ys, ∃ x ∈ xs, (y == x) = true := by
  rw [set_beq_iff]
  constructor
  · rintro ⟨-, covered, covers⟩
    constructor
    · intro x mem
      rcases firsts.covered x mem with ⟨y, memY, equal⟩
      rcases covered y memY with ⟨z, memZ, equalZ⟩
      exact ⟨z, firstsToo.sublist.mem memZ, PartialEquivBEq.trans equal equalZ⟩
    · intro y mem
      rcases firstsToo.covered y mem with ⟨x, memX, equal⟩
      rcases covers x memX with ⟨z, memZ, equalZ⟩
      exact ⟨z, firsts.sublist.mem memZ, PartialEquivBEq.trans equal (BEq.symm equalZ)⟩
  · rintro ⟨covered, covers⟩
    have coveredKept : ∀ x ∈ kept, ∃ y ∈ keptToo, (x == y) = true := fun x mem =>
      firstsToo.exists_beq (covered x (firsts.sublist.mem mem))
    have coversKept : ∀ y ∈ keptToo, ∃ x ∈ kept, (y == x) = true := fun y mem =>
      firsts.exists_beq (covers y (firstsToo.sublist.mem mem))
    constructor
    · apply Nat.le_antisymm
      · exact length_le_of_forall_exists_beq firsts.apart coveredKept
      · exact length_le_of_forall_exists_beq firstsToo.apart coversKept
    · constructor
      · exact coveredKept
      · intro y mem
        rcases coversKept y mem with ⟨x, memX, equal⟩
        exact ⟨x, memX, BEq.symm equal⟩

/-- Equality of values is symmetric and transitive, and reflexive but for values in which a
NaN occurs, which are equal to nothing.  A set that is made of values without a NaN has the
first of those that are equal to each other as its members, it is made of its members again,
and two such sets are equal when each value that went into either has an equal among those
of the other, whatever their order and however often they are repeated. -/
theorem beq_lawful_setOf_canonical :
    (∀ v w : Value, (v == w) = (w == v)) ∧
      (∀ u v w : Value, (u == v) = true → (v == w) = true → (u == w) = true) ∧
      (∀ v : Value, (v == v) = true ↔ ¬v.HasNaN) ∧
      (∀ v w : Value, v.HasNaN → (v == w) = false) ∧
      ∀ xs ys : List Value, (∀ x ∈ xs, ¬x.HasNaN) → (∀ y ∈ ys, ¬y.HasNaN) →
        (∃ members, setOf xs = set members ∧ Firsts xs members ∧ setOf members = setOf xs) ∧
        ((setOf xs == setOf ys) = true ↔
          (∀ x ∈ xs, ∃ y ∈ ys, (x == y) = true) ∧ ∀ y ∈ ys, ∃ x ∈ xs, (y == x) = true) ∧
        ((∀ x, x ∈ xs ↔ x ∈ ys) → (setOf xs == setOf ys) = true) := by
  constructor
  · exact same_comm
  constructor
  · exact fun _ _ _ => same_trans
  constructor
  · exact same_self_iff
  constructor
  · exact fun _ w occurs => occurs.same_eq_false w
  intro xs ys clean cleanToo
  have firsts := firsts_distinct clean
  have equal := set_beq_iff_of_firsts firsts (firsts_distinct cleanToo)
  constructor
  · exact ⟨_, rfl, firsts, firsts.setOf_eq⟩
  constructor
  · exact equal
  intro same
  apply equal.2
  constructor
  · exact fun x mem => ⟨x, (same x).1 mem, (same_self_iff x).2 (clean x mem)⟩
  · exact fun y mem => ⟨y, (same y).2 mem, (same_self_iff y).2 (cleanToo y mem)⟩

/-- Of the two zeros and of two sets with the same members, repeated in other ways, the
first ones are kept.  The others make an equal set. -/
theorem beq_lawful_setOf_canonical_zeros :
    let values : List Value := [.double ⟨0⟩, .double ⟨0x8000000000000000⟩,
      .set [.null, .null, .graph], .set [.graph, .null, .graph]]
    (∀ x ∈ values, ¬x.HasNaN) ∧ (∀ y ∈ values.reverse, ¬y.HasNaN) ∧
      (∃ members, setOf values = set members ∧ Firsts values members ∧
        setOf members = setOf values ∧ members.length = 2) ∧
      (setOf values == setOf values.reverse) = true := by
  intro values
  have clean : ∀ x ∈ values, ¬x.HasNaN := by decide +kernel
  have cleanToo : ∀ y ∈ values.reverse, ¬y.HasNaN := by decide +kernel
  rcases beq_lawful_setOf_canonical.2.2.2.2 values values.reverse clean cleanToo with
    ⟨⟨members, isSet, firsts, again⟩, -, equal⟩
  have length : (distinctFrom [] values).length = 2 := by decide +kernel
  have isMembers : distinctFrom [] values = members := Value.set.inj isSet
  constructor
  · exact clean
  constructor
  · exact cleanToo
  constructor
  · exact ⟨members, isSet, firsts, again, isMembers ▸ length⟩
  · exact equal fun x => List.mem_reverse.symm

end Value

end KeyConsole
