/-!
# Rows of pieces

What is read piece by piece is a row of pieces, each written in some way, and a rest.
Every list begins with a row of pieces behind which no other begins.  The row is the only
one when each piece shows what it is, whatever may follow it.
-/

namespace KeyConsole

variable {α β : Type} {written : α → List β}

/-- Every list is a row of pieces and a rest at which no piece begins. -/
theorem exists_row (nonempty : ∀ piece, written piece ≠ []) (input : List β) :
    ∃ (pieces : List α) (left : List β), input = pieces.flatMap written ++ left ∧
      ¬∃ piece behind, left = written piece ++ behind := by
  by_cases begins : ∃ piece behind, input = written piece ++ behind
  · obtain ⟨piece, behind, split⟩ := begins
    have shorter : behind.length < input.length := by
      have := List.length_pos_iff.2 (nonempty piece)
      rw [split, List.length_append]
      omega
    obtain ⟨pieces, left, rfl, ends⟩ := exists_row nonempty behind
    refine ⟨piece :: pieces, left, ?_, ends⟩
    rw [split, List.flatMap_cons, List.append_assoc]
  · exact ⟨[], input, rfl, begins⟩
termination_by input.length

/-- Pieces that can be told apart when they are read from the left. `Ends` holds of what
stands behind a row, and `Follows` of what may stand behind a piece. -/
structure Legible (written : α → List β) (Follows Ends : List β → Prop) : Prop where
  /-- The end of a row may follow a piece. -/
  last : ∀ {left}, Ends left → Follows left
  /-- So may another piece. -/
  next : ∀ {piece left}, Follows left → Follows (written piece ++ left)
  /-- A piece shows what it is. -/
  shows : ∀ {piece other left rest}, Follows left → Follows rest →
    written piece ++ left = written other ++ rest → piece = other ∧ left = rest
  /-- No row ends where a piece begins. -/
  begins : ∀ {piece left}, Follows left → ¬Ends (written piece ++ left)

namespace Legible

variable {Follows Ends : List β → Prop} {pieces others : List α} {left rest : List β}

theorem follows (legible : Legible written Follows Ends) (ends : Ends left) :
    Follows (pieces.flatMap written ++ left) := by
  induction pieces with
  | nil => exact legible.last ends
  | cons piece pieces ih =>
    rw [List.flatMap_cons, List.append_assoc]
    exact legible.next ih

theorem not_ends_cons (legible : Legible written Follows Ends) (ends : Ends left) (piece : α) :
    ¬Ends ((piece :: pieces).flatMap written ++ left) := by
  rw [List.flatMap_cons, List.append_assoc]
  exact legible.begins (legible.follows ends)

/-- What is written is one row only. -/
theorem unique (legible : Legible written Follows Ends) (leftEnds : Ends left)
    (restEnds : Ends rest)
    (same : pieces.flatMap written ++ left = others.flatMap written ++ rest) :
    pieces = others ∧ left = rest := by
  induction pieces generalizing others with
  | nil =>
    cases others with
    | nil => exact ⟨rfl, same⟩
    | cons other others =>
      rw [List.flatMap_nil, List.nil_append] at same
      exact absurd (same ▸ leftEnds) (legible.not_ends_cons restEnds other)
  | cons piece pieces ih =>
    cases others with
    | nil =>
      rw [List.flatMap_nil, List.nil_append] at same
      exact absurd (same ▸ restEnds) (legible.not_ends_cons leftEnds piece)
    | cons other others =>
      simp only [List.flatMap_cons, List.append_assoc] at same
      obtain ⟨rfl, behind⟩ :=
        legible.shows (legible.follows leftEnds) (legible.follows restEnds) same
      obtain ⟨rfl, rfl⟩ := ih behind
      exact ⟨rfl, rfl⟩

end Legible

end KeyConsole
