import KeyConsole.Backend.FileTree.Lemmas

/-!
# Where paths lead

A path that leads to a file, or to a place where one can be created, leads to that
place alone and goes on doing so, whatever is written to the tree.
-/

namespace KeyConsole.FileTree

variable {α : Type} {tree : FileTree α} {path : String} {location : Location}

/-- A path leads to a file, or to a place where one can be created. -/
def LeadsTo (tree : FileTree α) (path : String) (location : Location) : Prop :=
  ∃ node, tree.resolve path = .ok node ∧ node.location? = some location

theorem LeadsTo.write (leads : tree.LeadsTo path location) (other : Location) (contents : α) :
    (tree.write other contents).LeadsTo path location := by
  rcases leads with ⟨node, resolved, isLocation⟩
  refine ⟨_, tree.resolve_write other contents resolved, ?_⟩
  split
  · next same => exact same.symm.trans isLocation
  · exact isLocation

theorem eq_of_location?_look {seen : Location} (there : (tree.look seen).location? = some location) :
    seen = location := by
  unfold look at there
  split at there
  · cases there
  · split at there <;> exact Option.some.inj there

/-- A path that leads to a place finds what is there. -/
theorem LeadsTo.resolve (leads : tree.LeadsTo path location) :
    tree.resolve path = .ok (tree.look location) := by
  rcases leads with ⟨node, resolved, isLocation⟩
  have seen : ∃ seen, tree.look seen = node := by
    unfold FileTree.resolve at resolved
    cases checked : checkPath path with
    | error fault =>
      rw [checked] at resolved
      cases resolved
    | ok _ =>
      rw [checked] at resolved
      simp only [bind, Except.bind, resolveNames] at resolved
      split at resolved
      · cases resolved
      · exact ⟨_, (tree.arrive_eq_ok_iff.1 resolved).1⟩
  rcases seen with ⟨seen, rfl⟩
  rw [resolved, eq_of_location?_look isLocation]

theorem LeadsTo.location?_look (leads : tree.LeadsTo path location) :
    (tree.look location).location? = some location := by
  have resolved := leads.resolve
  rcases leads with ⟨node, found, isLocation⟩
  cases found.symm.trans resolved
  exact isLocation

/-- What was written where a path leads is found there. -/
theorem LeadsTo.look_write (leads : tree.LeadsTo path location) (contents : α) :
    (tree.write location contents).look location = .file location contents := by
  rw [tree.look_write, if_pos leads.location?_look]

/-- A path leads to one place only. -/
theorem LeadsTo.unique {other : Location} (leads : tree.LeadsTo path location)
    (leadsToo : tree.LeadsTo path other) : location = other := by
  have same := leads.resolve.symm.trans leadsToo.resolve
  have looks : tree.look location = tree.look other := Except.ok.inj same
  exact Option.some.inj (leads.location?_look.symm.trans (looks ▸ leadsToo.location?_look))

end KeyConsole.FileTree
