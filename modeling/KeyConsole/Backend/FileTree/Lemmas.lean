import KeyConsole.OrderedMap.Lemmas
import KeyConsole.Backend.FileTree

/-!
# Writing to a tree of files

Writing a file changes no directory, and only directories are on the way to
the end of a path.  So a path leads to the same place before and after, and
only what is found at that place can be different.
-/

namespace KeyConsole.FileTree

variable {α : Type} (tree : FileTree α)

/-- The place of a file, or of one that can be created. -/
def Node.location? : Node α → Option Location
  | directory => none
  | file location _ => some location
  | vacant location => some location

theorem enter_eq_ok_iff {directory next : Location} {name : String} :
    tree.enter directory name = .ok next ↔
      name.utf8ByteSize ≤ nameLimit ∧ follow directory name ∈ tree.directories ∧
        follow directory name = next := by
  unfold enter
  by_cases long : nameLimit < name.utf8ByteSize
  · simp [long, Nat.not_le_of_gt long]
  · by_cases there : follow directory name ∈ tree.directories
    · simp [long, there, Nat.le_of_not_lt long]
    · by_cases file : tree.files.contains (follow directory name) <;> simp [long, there, file]

theorem foldlM_enter_write {names : List String} {start last : Location} (location : Location)
    (contents : α) (entered : names.foldlM tree.enter start = .ok last) :
    names.foldlM (tree.write location contents).enter start = .ok last := by
  induction names generalizing start with
  | nil => exact entered
  | cons name names inductionHypothesis =>
    rw [List.foldlM_cons] at entered ⊢
    cases first : tree.enter start name with
    | error fault =>
      rw [first] at entered
      cases entered
    | ok middle =>
      rw [first] at entered
      have again : (tree.write location contents).enter start name = .ok middle :=
        (enter_eq_ok_iff _).2 (tree.enter_eq_ok_iff.1 first)
      rw [again]
      exact inductionHypothesis entered

/-- Writing at one location changes what is seen there and nowhere else. -/
theorem look_write (location other : Location) (contents : α) :
    (tree.write location contents).look other
      = if (tree.look other).location? = some location then .file location contents
        else tree.look other := by
  by_cases there : other ∈ tree.directories
  · simp [look, write, there, Node.location?]
  · by_cases same : other = location
    · subst same
      cases found : tree.files.get? other <;>
        simp [look, write, there, found, OrderedMap.get?_insert, Node.location?]
    · cases found : tree.files.get? other <;>
        simp [look, write, there, found, same, OrderedMap.get?_insert, Node.location?]

theorem arrive_eq_ok_iff {directory : Location} {name : String} {slash : Bool} {node : Node α} :
    tree.arrive directory name slash = .ok node ↔
      tree.look (follow directory name) = node ∧
        (node = .directory ∨ slash = false ∧ name.utf8ByteSize ≤ nameLimit) := by
  unfold arrive
  cases tree.look (follow directory name) <;> cases slash <;>
    by_cases long : nameLimit < name.utf8ByteSize <;> cases node <;>
    simp [long, Nat.not_le_of_gt, Nat.le_of_not_lt]

theorem arrive_write {directory : Location} {name : String} {slash : Bool} {node : Node α}
    (location : Location) (contents : α) (arrived : tree.arrive directory name slash = .ok node) :
    (tree.write location contents).arrive directory name slash
      = .ok (if node.location? = some location then .file location contents else node) := by
  obtain ⟨seen, fits⟩ := tree.arrive_eq_ok_iff.1 arrived
  rw [arrive_eq_ok_iff, look_write, seen]
  refine ⟨rfl, fits.imp_left ?_⟩
  rintro rfl
  rfl

/-- What a path leads to once a file has been written somewhere. -/
theorem resolve_write {path : String} {node : Node α} (location : Location) (contents : α)
    (resolved : tree.resolve path = .ok node) :
    (tree.write location contents).resolve path
      = .ok (if node.location? = some location then .file location contents else node) := by
  unfold resolve at resolved ⊢
  cases checked : checkPath path with
  | error fault =>
    rw [checked] at resolved
    cases resolved
  | ok _ =>
    rw [checked] at resolved
    simp only [bind, Except.bind, resolveNames] at resolved ⊢
    split at resolved
    · cases resolved
    · next directory entered =>
      have sameStart : (tree.write location contents).start path = tree.start path := rfl
      rw [sameStart, tree.foldlM_enter_write location contents entered]
      exact tree.arrive_write location contents resolved

end KeyConsole.FileTree
