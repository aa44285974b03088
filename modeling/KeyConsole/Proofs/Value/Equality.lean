import KeyConsole.Value.Equality
import Mathlib.Data.List.Forall2

/-!
# Equality of values is lawful

Equality looks into nested values, and compares two sets by their lengths and by looking
for an equal of each member of either among the members of the other.  It is symmetric and
transitive all the same, and a value is equal to itself unless a NaN occurs in it.
-/

namespace KeyConsole

/-- Numbers that are equal to one number are equal to each other. -/
theorem Double.numEq_trans {a b c : Double} (first : a.numEq b = true)
    (second : b.numEq c = true) : a.numEq c = true := by
  simp only [numEq, Bool.and_eq_true, Bool.or_eq_true, beq_iff_eq, Bool.not_eq_true'] at *
  constructor
  · exact ⟨first.1.1, second.1.2⟩
  · rcases first.2 with rfl | zeros
    · exact second.2
    · rcases second.2 with rfl | zerosToo
      · exact .inr zeros
      · exact .inr ⟨zeros.1, zerosToo.2⟩

namespace Value

/-- A NaN occurs in a value, at whatever depth. -/
inductive HasNaN : Value → Prop
  | double {value : Double} (isNaN : value.isNaN = true) : HasNaN (double value)
  | array {items : List Value} {item : Value} (mem : item ∈ items) (inside : HasNaN item) :
      HasNaN (array items)
  | set {members : List Value} {member : Value} (mem : member ∈ members)
      (inside : HasNaN member) : HasNaN (set members)
  | member {members : List (Value × Double)} {member : Value × Double} (mem : member ∈ members)
      (inside : HasNaN member.1) : HasNaN (scoredSet members)
  | score {members : List (Value × Double)} {member : Value × Double} (mem : member ∈ members)
      (isNaN : member.2.isNaN = true) : HasNaN (scoredSet members)
  | field {fields : List (Value × Value)} {field : Value × Value} (mem : field ∈ fields)
      (inside : HasNaN field.1) : HasNaN (hash fields)
  | value {fields : List (Value × Value)} {field : Value × Value} (mem : field ∈ fields)
      (inside : HasNaN field.2) : HasNaN (hash fields)

/-! ## What makes values equal -/

theorem sameItems_iff {xs ys : List Value} :
    sameItems xs ys = true ↔ List.Forall₂ (fun x y => same x y = true) xs ys := by
  induction xs generalizing ys with
  | nil => cases ys <;> simp [sameItems]
  | cons x xs ih => cases ys <;> simp [sameItems, ih]

theorem coveredBy_iff {xs ys : List Value} :
    coveredBy xs ys = true ↔ ∀ x ∈ xs, ∃ y ∈ ys, same x y = true := by
  induction xs with
  | nil => simp [coveredBy]
  | cons x xs ih => simp [coveredBy, ih]

theorem hasEqual_iff {xs : List Value} {y : Value} :
    hasEqual xs y = true ↔ ∃ x ∈ xs, same x y = true := by
  induction xs with
  | nil => simp [hasEqual]
  | cons x xs ih => simp [hasEqual, ih]

theorem sameScored_iff {xs ys : List (Value × Double)} :
    sameScored xs ys = true ↔
      List.Forall₂ (fun x y => same x.1 y.1 = true ∧ x.2.numEq y.2 = true) xs ys := by
  induction xs generalizing ys with
  | nil => cases ys <;> simp [sameScored]
  | cons x xs ih =>
    cases ys with
    | nil => simp [sameScored]
    | cons y ys =>
      rcases x with ⟨x, s⟩
      rcases y with ⟨y, t⟩
      simp [sameScored, ih]

theorem sameFields_iff {xs ys : List (Value × Value)} :
    sameFields xs ys = true ↔
      List.Forall₂ (fun x y => same x.1 y.1 = true ∧ same x.2 y.2 = true) xs ys := by
  induction xs generalizing ys with
  | nil => cases ys <;> simp [sameFields]
  | cons x xs ih =>
    cases ys with
    | nil => simp [sameFields]
    | cons y ys =>
      rcases x with ⟨x, v⟩
      rcases y with ⟨y, w⟩
      simp [sameFields, ih]

/-- How two values come to be equal: they are of one kind, and their contents are equal. -/
inductive Alike : Value → Value → Prop
  | null : Alike null null
  | boolean (value : Bool) : Alike (boolean value) (boolean value)
  | integer (value : Int64) : Alike (integer value) (integer value)
  | double {a b : Double} (numEq : a.numEq b = true) : Alike (double a) (double b)
  | string (text : String) : Alike (string text) (string text)
  | byteArray (bytes : Bytes) : Alike (byteArray bytes) (byteArray bytes)
  | array {xs ys : List Value} (items : List.Forall₂ (fun x y => same x y = true) xs ys) :
      Alike (array xs) (array ys)
  | set {xs ys : List Value} (length : xs.length = ys.length)
      (covered : ∀ x ∈ xs, ∃ y ∈ ys, same x y = true)
      (covers : ∀ y ∈ ys, ∃ x ∈ xs, same x y = true) : Alike (set xs) (set ys)
  | scoredSet {xs ys : List (Value × Double)}
      (members : List.Forall₂ (fun x y => same x.1 y.1 = true ∧ x.2.numEq y.2 = true) xs ys) :
      Alike (scoredSet xs) (scoredSet ys)
  | hash {xs ys : List (Value × Value)}
      (fields : List.Forall₂ (fun x y => same x.1 y.1 = true ∧ same x.2 y.2 = true) xs ys) :
      Alike (hash xs) (hash ys)
  | json (text : String) : Alike (json text) (json text)
  | graph : Alike graph graph
  | searchIndex : Alike searchIndex searchIndex
  | searchTerm : Alike searchTerm searchTerm

theorem alike_of_same {v w : Value} (equal : same v w = true) : Alike v w := by
  revert equal
  fun_cases same v w with
  | case1 => exact fun _ => .null
  | case2 a b => exact fun equal => eq_of_beq equal ▸ .boolean a
  | case3 a b => exact fun equal => eq_of_beq equal ▸ .integer a
  | case4 a b => exact .double
  | case5 a b => exact fun equal => eq_of_beq equal ▸ .string a
  | case6 a b => exact fun equal => eq_of_beq equal ▸ .byteArray a
  | case7 xs ys => exact fun equal => .array (sameItems_iff.1 equal)
  | case8 xs ys =>
    intro equal
    simp only [Bool.and_eq_true, beq_iff_eq, coveredBy_iff, List.all_eq_true, hasEqual_iff]
      at equal
    exact .set equal.1.1 equal.1.2 equal.2
  | case9 xs ys => exact fun equal => .scoredSet (sameScored_iff.1 equal)
  | case10 xs ys => exact fun equal => .hash (sameFields_iff.1 equal)
  | case11 a b => exact fun equal => eq_of_beq equal ▸ .json a
  | case12 => exact fun _ => .graph
  | case13 => exact fun _ => .searchIndex
  | case14 => exact fun _ => .searchTerm
  | case15 => exact fun equal => absurd equal Bool.false_ne_true

theorem same_iff_alike {v w : Value} : same v w = true ↔ Alike v w := by
  constructor
  · exact alike_of_same
  · intro alike
    cases alike with
    | null | graph | searchIndex | searchTerm => rw [same]
    | boolean | integer | string | byteArray | json => simp only [same, beq_self_eq_true]
    | double numEq => rwa [same]
    | array items => rwa [same, sameItems_iff]
    | set length covered covers =>
      simp only [same, Bool.and_eq_true, beq_iff_eq, coveredBy_iff, List.all_eq_true,
        hasEqual_iff]
      exact ⟨⟨length, covered⟩, covers⟩
    | scoredSet members => rwa [same, sameScored_iff]
    | hash fields => rwa [same, sameFields_iff]

theorem set_beq_iff {xs ys : List Value} :
    (set xs == set ys) = true ↔
      xs.length = ys.length ∧ (∀ x ∈ xs, ∃ y ∈ ys, (x == y) = true) ∧
        ∀ y ∈ ys, ∃ x ∈ xs, (x == y) = true := by
  constructor
  · intro equal
    cases alike_of_same equal with
    | set length covered covers => exact ⟨length, covered, covers⟩
  · rintro ⟨length, covered, covers⟩
    exact same_iff_alike.2 (.set length covered covers)

/-! ## Symmetry and transitivity -/

/-- Lists that are related member by member are so the other way round, if their members
are. -/
theorem forall₂_symm {α : Type} {related : α → α → Prop} {xs ys : List α}
    (symm : ∀ x ∈ xs, ∀ y, related x y → related y x) (pairs : List.Forall₂ related xs ys) :
    List.Forall₂ related ys xs := by
  induction pairs with
  | nil => exact .nil
  | cons first _ ih =>
    have rest := ih fun x mem => symm x (List.mem_cons_of_mem _ mem)
    exact .cons (symm _ List.mem_cons_self _ first) rest

theorem forall₂_trans {α : Type} {related : α → α → Prop} {xs ys zs : List α}
    (trans : ∀ x ∈ xs, ∀ y z, related x y → related y z → related x z)
    (pairs : List.Forall₂ related xs ys) (pairsToo : List.Forall₂ related ys zs) :
    List.Forall₂ related xs zs := by
  induction pairs generalizing zs with
  | nil => exact pairsToo
  | cons first _ ih =>
    cases pairsToo with
    | cons second others =>
      have rest := ih (fun x mem => trans x (List.mem_cons_of_mem _ mem)) others
      exact .cons (trans _ List.mem_cons_self _ _ first second) rest

theorem same_symm {v w : Value} (equal : same v w = true) : same w v = true := by
  induction v generalizing w with
  | null | boolean | integer | string | byteArray | json | graph | searchIndex | searchTerm =>
    cases alike_of_same equal
    exact equal
  | double a =>
    cases alike_of_same equal with
    | double numEq => exact same_iff_alike.2 (.double ((Double.numEq_comm _ _).trans numEq))
  | array xs ih =>
    cases alike_of_same equal with
    | array items => exact same_iff_alike.2 (.array (forall₂_symm (fun x mem _ => ih x mem) items))
  | set xs ih =>
    cases alike_of_same equal with
    | set length covered covers =>
      apply same_iff_alike.2
      apply Alike.set length.symm
      · intro y mem
        rcases covers y mem with ⟨x, memToo, found⟩
        exact ⟨x, memToo, ih x memToo found⟩
      · intro x mem
        rcases covered x mem with ⟨y, memToo, found⟩
        exact ⟨y, memToo, ih x mem found⟩
  | scoredSet xs ih =>
    cases alike_of_same equal with
    | scoredSet members =>
      apply same_iff_alike.2
      apply Alike.scoredSet
      apply forall₂_symm _ members
      intro x mem y both
      exact ⟨ih x mem both.1, (Double.numEq_comm _ _).trans both.2⟩
  | hash xs ih =>
    cases alike_of_same equal with
    | hash fields =>
      apply same_iff_alike.2
      apply Alike.hash
      apply forall₂_symm _ fields
      intro x mem y both
      exact ⟨(ih x mem).1 both.1, (ih x mem).2 both.2⟩

theorem same_comm (v w : Value) : same v w = same w v :=
  Bool.eq_iff_iff.2 ⟨same_symm, same_symm⟩

theorem same_trans {u v w : Value} (first : same u v = true) (second : same v w = true) :
    same u w = true := by
  induction u generalizing v w with
  | null | boolean | integer | string | byteArray | json | graph | searchIndex | searchTerm =>
    cases alike_of_same first
    exact second
  | double a =>
    cases alike_of_same first with
    | double numEq =>
      cases alike_of_same second with
      | double numEqToo => exact same_iff_alike.2 (.double (Double.numEq_trans numEq numEqToo))
  | array xs ih =>
    cases alike_of_same first with
    | array items =>
      cases alike_of_same second with
      | array itemsToo =>
        apply same_iff_alike.2
        exact .array (forall₂_trans (fun x mem _ _ => ih x mem) items itemsToo)
  | set xs ih =>
    cases alike_of_same first with
    | set length covered covers =>
      cases alike_of_same second with
      | set lengthToo coveredToo coversToo =>
        apply same_iff_alike.2
        apply Alike.set (length.trans lengthToo)
        · intro x mem
          rcases covered x mem with ⟨y, memToo, found⟩
          rcases coveredToo y memToo with ⟨z, memLast, foundToo⟩
          exact ⟨z, memLast, ih x mem found foundToo⟩
        · intro z mem
          rcases coversToo z mem with ⟨y, memToo, foundToo⟩
          rcases covers y memToo with ⟨x, memFirst, found⟩
          exact ⟨x, memFirst, ih x memFirst found foundToo⟩
  | scoredSet xs ih =>
    cases alike_of_same first with
    | scoredSet members =>
      cases alike_of_same second with
      | scoredSet membersToo =>
        apply same_iff_alike.2
        apply Alike.scoredSet
        apply forall₂_trans _ members membersToo
        intro x mem y z both bothToo
        exact ⟨ih x mem both.1 bothToo.1, Double.numEq_trans both.2 bothToo.2⟩
  | hash xs ih =>
    cases alike_of_same first with
    | hash fields =>
      cases alike_of_same second with
      | hash fieldsToo =>
        apply same_iff_alike.2
        apply Alike.hash
        apply forall₂_trans _ fields fieldsToo
        intro x mem y z both bothToo
        exact ⟨(ih x mem).1 both.1 bothToo.1, (ih x mem).2 both.2 bothToo.2⟩

instance : PartialEquivBEq Value where
  symm := same_symm
  trans := same_trans

/-! ## Reflexivity -/

/-- A value that is equal to any value is equal to itself. -/
theorem same_self_of_same {v w : Value} (equal : same v w = true) : same v v = true :=
  same_trans equal (same_symm equal)

theorem not_hasNaN_of_same_self {v : Value} (equal : same v v = true) : ¬v.HasNaN := by
  intro occurs
  induction occurs with
  | double isNaN =>
    cases alike_of_same equal with
    | double numEq => simp [Double.numEq, isNaN] at numEq
  | array mem _ ih =>
    cases alike_of_same equal with
    | array items => exact ih (List.forall₂_same.1 items _ mem)
  | set mem _ ih =>
    cases alike_of_same equal with
    | set length covered covers =>
      rcases covered _ mem with ⟨_, _, found⟩
      exact ih (same_self_of_same found)
  | member mem _ ih =>
    cases alike_of_same equal with
    | scoredSet members => exact ih (List.forall₂_same.1 members _ mem).1
  | score mem isNaN =>
    cases alike_of_same equal with
    | scoredSet members =>
      have numEq := (List.forall₂_same.1 members _ mem).2
      simp [Double.numEq, isNaN] at numEq
  | field mem _ ih =>
    cases alike_of_same equal with
    | hash fields => exact ih (List.forall₂_same.1 fields _ mem).1
  | value mem _ ih =>
    cases alike_of_same equal with
    | hash fields => exact ih (List.forall₂_same.1 fields _ mem).2

theorem same_self_of_not_hasNaN {v : Value} (clean : ¬v.HasNaN) : same v v = true := by
  apply same_iff_alike.2
  induction v with
  | null | boolean | integer | string | byteArray | json | graph | searchIndex | searchTerm =>
    constructor
  | double value =>
    apply Alike.double
    rw [Double.numEq_self_iff]
    exact Bool.eq_false_iff.2 fun isNaN => clean (.double isNaN)
  | array items ih =>
    apply Alike.array
    apply List.forall₂_same.2
    intro item mem
    exact same_iff_alike.2 (ih item mem fun inside => clean (.array mem inside))
  | set members ih =>
    have equal (member : Value) (mem : member ∈ members) : same member member = true :=
      same_iff_alike.2 (ih member mem fun inside => clean (.set mem inside))
    apply Alike.set rfl
    · exact fun member mem => ⟨member, mem, equal member mem⟩
    · exact fun member mem => ⟨member, mem, equal member mem⟩
  | scoredSet members ih =>
    apply Alike.scoredSet
    apply List.forall₂_same.2
    intro member mem
    constructor
    · exact same_iff_alike.2 (ih member mem fun inside => clean (.member mem inside))
    · rw [Double.numEq_self_iff]
      exact Bool.eq_false_iff.2 fun isNaN => clean (.score mem isNaN)
  | hash fields ih =>
    apply Alike.hash
    apply List.forall₂_same.2
    intro field mem
    constructor
    · exact same_iff_alike.2 ((ih field mem).1 fun inside => clean (.field mem inside))
    · exact same_iff_alike.2 ((ih field mem).2 fun inside => clean (.value mem inside))

/-- A value is equal to itself unless a NaN occurs in it. -/
theorem same_self_iff (v : Value) : same v v = true ↔ ¬v.HasNaN :=
  ⟨not_hasNaN_of_same_self, same_self_of_not_hasNaN⟩

instance : DecidablePred HasNaN := fun v =>
  decidable_of_iff (¬same v v = true) (by rw [same_self_iff, Classical.not_not])

/-- A value in which a NaN occurs is equal to nothing. -/
theorem HasNaN.same_eq_false {v : Value} (occurs : v.HasNaN) (w : Value) : same v w = false :=
  Bool.eq_false_iff.2 fun equal => not_hasNaN_of_same_self (same_self_of_same equal) occurs

end Value

end KeyConsole
