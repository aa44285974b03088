/-!
# Ordered maps

A finite map that lists its entries in ascending order of their keys.  The
order belongs to the type, so maps with the same entries are equal, whatever
was done to build them.
-/

namespace KeyConsole

universe u v

/-- Keys of which of any two different ones exactly one is smaller. -/
class KeyOrder (κ : Type u) [LT κ] : Prop where
  /-- No key is smaller than itself. -/
  irrefl : ∀ a : κ, ¬ a < a
  /-- What is smaller than a smaller key is smaller. -/
  trans : ∀ {a b c : κ}, a < b → b < c → a < c
  /-- Two keys are equal or one of them is smaller. -/
  connected : ∀ a b : κ, a < b ∨ a = b ∨ b < a

/-- Lists of bytes are ordered byte by byte. -/
instance : KeyOrder (List UInt8) where
  irrefl _ := Std.lt_irrefl
  trans := Std.lt_trans
  connected := Std.lt_trichotomy

/-- Names are ordered character by character. -/
instance : KeyOrder String where
  irrefl _ := Std.lt_irrefl
  trans := Std.lt_trans
  connected := Std.lt_trichotomy

/-- Lists of names are ordered name by name. -/
instance : KeyOrder (List String) where
  irrefl _ := Std.lt_irrefl
  trans := Std.lt_trans
  connected := Std.lt_trichotomy

/-- A finite map with its entries in ascending key order. -/
structure OrderedMap (κ : Type u) (α : Type v) [LT κ] where
  /-- The entries, each key before every greater one. -/
  entries : List (κ × α)
  /-- No key occurs twice, and none stands before a smaller one. -/
  sorted : entries.Pairwise (fun first second => first.1 < second.1)

namespace OrderedMap

variable {κ : Type u} {α : Type v} [LT κ]

@[ext]
theorem ext {first second : OrderedMap κ α} (same : first.entries = second.entries) :
    first = second := by
  cases first
  cases second
  cases same
  rfl

/-- The map without entries. -/
def empty : OrderedMap κ α where
  entries := []
  sorted := List.Pairwise.nil

/-- The sum of a weight over the entries. -/
def total (weight : κ → α → Nat) (map : OrderedMap κ α) : Nat :=
  map.entries.foldr (fun entry sum => weight entry.1 entry.2 + sum) 0

/-- How many entries a map has. -/
def size (map : OrderedMap κ α) : Nat :=
  map.entries.length

/-- The keys in ascending order. -/
def keys (map : OrderedMap κ α) : List κ :=
  map.entries.map Prod.fst

/-- The value under a key in a list of entries. -/
def find [DecidableEq κ] (key : κ) : List (κ × α) → Option α
  | [] => none
  | entry :: rest => if entry.1 = key then some entry.2 else find key rest

/-- The value under a key. -/
def get? [DecidableEq κ] (map : OrderedMap κ α) (key : κ) : Option α :=
  find key map.entries

/-- Whether a key has an entry. -/
def contains [DecidableEq κ] (map : OrderedMap κ α) (key : κ) : Bool :=
  (map.get? key).isSome

/-- Keep the entries that pass a test. -/
def filter (keep : κ → α → Bool) (map : OrderedMap κ α) : OrderedMap κ α where
  entries := map.entries.filter fun entry => keep entry.1 entry.2
  sorted := map.sorted.filter _

/-- Remove the entry of a key. -/
def erase [DecidableEq κ] (map : OrderedMap κ α) (key : κ) : OrderedMap κ α :=
  map.filter fun other _ => other ≠ key

section Insertion

variable [DecidableEq κ] [DecidableLT κ]

/-- Put an entry into its place, in the stead of the one with its key. -/
def place (key : κ) (value : α) : List (κ × α) → List (κ × α)
  | [] => [(key, value)]
  | entry :: rest =>
    if key < entry.1 then (key, value) :: entry :: rest
    else if entry.1 = key then (key, value) :: rest
    else entry :: place key value rest

theorem fst_mem_place {key : κ} {value : α} {entries : List (κ × α)} {entry : κ × α}
    (mem : entry ∈ place key value entries) : entry = (key, value) ∨ entry ∈ entries := by
  induction entries with
  | nil => simpa [place] using mem
  | cons head rest ih =>
    unfold place at mem
    split at mem
    · simpa using mem
    · split at mem
      · rcases List.mem_cons.1 mem with rfl | mem
        · exact Or.inl rfl
        · exact Or.inr (List.mem_cons_of_mem _ mem)
      · rcases List.mem_cons.1 mem with rfl | mem
        · exact Or.inr List.mem_cons_self
        · exact (ih mem).imp_right (List.mem_cons_of_mem _)

variable [KeyOrder κ]

theorem sorted_place (key : κ) (value : α) {entries : List (κ × α)}
    (sorted : entries.Pairwise (fun first second => first.1 < second.1)) :
    (place key value entries).Pairwise (fun first second => first.1 < second.1) := by
  induction entries with
  | nil => simp [place]
  | cons head rest ih =>
    obtain ⟨before, sortedRest⟩ := List.pairwise_cons.1 sorted
    unfold place
    split
    · next less =>
      refine List.pairwise_cons.2 ⟨fun entry mem => ?_, sorted⟩
      rcases List.mem_cons.1 mem with rfl | mem
      · exact less
      · exact KeyOrder.trans less (before entry mem)
    · next notLess =>
      split
      · next same => exact List.pairwise_cons.2 ⟨fun entry mem => same ▸ before entry mem, sortedRest⟩
      · next other =>
        refine List.pairwise_cons.2 ⟨fun entry mem => ?_, ih sortedRest⟩
        rcases fst_mem_place mem with rfl | mem
        · exact (KeyOrder.connected key head.1).elim (fun less => absurd less notLess)
            (fun rest => rest.elim (fun same => absurd same.symm other) id)
        · exact before entry mem

/-- Store a value under a key, in the stead of the value that was there. -/
def insert (map : OrderedMap κ α) (key : κ) (value : α) : OrderedMap κ α where
  entries := place key value map.entries
  sorted := sorted_place key value map.sorted

/-- The map with one entry. -/
def singleton (key : κ) (value : α) : OrderedMap κ α where
  entries := [(key, value)]
  sorted := List.pairwise_singleton _ _

end Insertion

end OrderedMap

end KeyConsole
