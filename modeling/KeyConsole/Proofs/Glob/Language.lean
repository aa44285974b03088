import Mathlib.Data.List.Forall2
import KeyConsole.Proofs.Glob.Spelling

/-!
# What patterns match

A key belongs to a pattern if it can be cut into parts, one for each token: any part for a
star, and one byte that it admits for every other token.  The matcher never goes back
behind the latest star.  Between two stars every token takes one byte, so what an earlier
star could reach by taking more, the latest one reaches as well.
-/

namespace KeyConsole.Glob

/-- A byte belongs to a member of a class. -/
def Member.Holds (b : UInt8) : Member → Prop
  | byte c => b = c
  | range c d => c ≤ b ∧ b ≤ d ∨ d ≤ b ∧ b ≤ c

/-- A token takes a part of a key. -/
inductive Token.Takes : Token → Bytes → Prop where
  | run (part : Bytes) : Takes .run part
  | any (b : UInt8) : Takes .any [b]
  | inside {members : List Member} {b : UInt8} (belongs : ∃ member ∈ members, member.Holds b) :
      Takes (.oneOf false members) [b]
  | outside {members : List Member} {b : UInt8}
      (apart : ¬∃ member ∈ members, member.Holds b) : Takes (.oneOf true members) [b]
  | byte (b : UInt8) : Takes (.byte b) [b]

/-- The tokens of a pattern take the parts into which a key is cut. -/
def Cuts (pattern : Pattern) (key : Bytes) : Prop :=
  ∃ parts, List.Forall₂ Token.Takes pattern parts ∧ parts.flatten = key

/-! ## Single tokens -/

theorem Member.admits_iff {b : UInt8} {member : Member} :
    member.admits b = true ↔ member.Holds b := by
  cases member with
  | byte c => rw [admits, Holds, beq_iff_eq, eq_comm]
  | range c d =>
    simp only [admits, Holds, Bool.or_eq_true, Bool.and_eq_true, decide_eq_true_eq]

theorem any_admits_iff {b : UInt8} {members : List Member} :
    members.any (Member.admits b) = true ↔ ∃ member ∈ members, member.Holds b := by
  simp only [List.any_eq_true, Member.admits_iff]

/-- A token other than a star takes just a byte that it admits. -/
theorem Token.takes_iff_of_ne_run {token : Token} (single : token ≠ .run) {part : Bytes} :
    token.Takes part ↔ ∃ b, part = [b] ∧ token.admits b = true := by
  constructor
  · intro takes
    cases takes with
    | run => exact absurd rfl single
    | any b => exact ⟨b, rfl, rfl⟩
    | @inside members b belongs => exact ⟨b, rfl, by simp [admits, any_admits_iff.2 belongs]⟩
    | @outside members b apart =>
      have apart := mt any_admits_iff.1 apart
      exact ⟨b, rfl, by simp_all [admits]⟩
    | byte b => exact ⟨b, rfl, beq_self_eq_true b⟩
  · rintro ⟨b, rfl, admitted⟩
    cases token with
    | run => exact absurd rfl single
    | any => exact .any b
    | oneOf negated members =>
      cases negated with
      | false => exact .inside (any_admits_iff.1 (by simpa [admits] using admitted))
      | true =>
        refine .outside fun belongs => ?_
        simp [admits, any_admits_iff.2 belongs] at admitted
    | byte c =>
      obtain rfl := eq_of_beq admitted
      exact .byte c

theorem ne_run_of_admits {token : Token} {b : UInt8} (admitted : token.admits b = true) :
    token ≠ .run := by
  rintro rfl
  cases admitted

/-! ## Cutting a key -/

theorem cuts_nil_iff {key : Bytes} : Cuts [] key ↔ key = [] := by
  simp [Cuts, eq_comm]

theorem cuts_cons_iff {token : Token} {pattern : Pattern} {key : Bytes} :
    Cuts (token :: pattern) key ↔
      ∃ part left, token.Takes part ∧ Cuts pattern left ∧ key = part ++ left := by
  constructor
  · rintro ⟨_, takes, rfl⟩
    cases takes with
    | cons taken others => exact ⟨_, _, taken, ⟨_, others, rfl⟩, List.flatten_cons⟩
  · rintro ⟨part, _, taken, ⟨parts, others, rfl⟩, rfl⟩
    exact ⟨part :: parts, .cons taken others, List.flatten_cons⟩

/-- A star takes any bytes off the front. -/
theorem cuts_run_iff {pattern : Pattern} {key : Bytes} :
    Cuts (.run :: pattern) key ↔ ∃ left, left <:+ key ∧ Cuts pattern left := by
  rw [cuts_cons_iff]
  constructor
  · rintro ⟨part, left, _, cuts, rfl⟩
    exact ⟨left, List.suffix_append part left, cuts⟩
  · rintro ⟨left, ⟨part, rfl⟩, cuts⟩
    exact ⟨part, left, .run part, cuts, rfl⟩

theorem Cuts.run {pattern : Pattern} {key : Bytes} (cuts : Cuts pattern key) :
    Cuts (.run :: pattern) key :=
  cuts_run_iff.2 ⟨key, List.suffix_rfl, cuts⟩

theorem cuts_run_cons_iff {pattern : Pattern} {b : UInt8} {key : Bytes} :
    Cuts (.run :: pattern) (b :: key) ↔ Cuts pattern (b :: key) ∨ Cuts (.run :: pattern) key := by
  simp only [cuts_run_iff, List.suffix_cons_iff, or_and_right, exists_or, exists_eq_left]

/-- Two stars in a row take what one of them takes. -/
theorem cuts_run_run_iff {pattern : Pattern} {key : Bytes} :
    Cuts (.run :: .run :: pattern) key ↔ Cuts (.run :: pattern) key := by
  refine ⟨fun cuts => ?_, Cuts.run⟩
  obtain ⟨middle, isMiddle, cuts⟩ := cuts_run_iff.1 cuts
  obtain ⟨left, isLeft, cuts⟩ := cuts_run_iff.1 cuts
  exact cuts_run_iff.2 ⟨left, isLeft.trans isMiddle, cuts⟩

/-- Only stars match no bytes. -/
theorem cuts_empty_iff {pattern : Pattern} :
    Cuts pattern [] ↔ pattern.all (· == .run) = true := by
  induction pattern with
  | nil => simp [cuts_nil_iff]
  | cons token pattern ih =>
    by_cases star : token = .run
    · subst star
      simp [cuts_run_iff, ih]
    · simp [cuts_cons_iff, Token.takes_iff_of_ne_run star, star]

/-- In front of a byte, a pattern that begins with no star goes on behind its first token. -/
theorem cuts_byte_iff {pattern : Pattern} {b : UInt8} {key : Bytes}
    (single : pattern.head? ≠ some .run) :
    Cuts pattern (b :: key) ↔ ∃ rest, afterByte? b pattern = some rest ∧ Cuts rest key := by
  cases pattern with
  | nil => simp [cuts_nil_iff, afterByte?]
  | cons token pattern =>
    have single : token ≠ .run := fun same => single (same ▸ rfl)
    simp [cuts_cons_iff, Token.takes_iff_of_ne_run single, afterByte?, and_assoc]

theorem head?_ne_run_of_afterByte? {b : UInt8} {pattern rest : Pattern}
    (admitted : afterByte? b pattern = some rest) : pattern.head? ≠ some .run := by
  obtain ⟨token, rfl, admits⟩ := afterByte?_eq_some_iff.1 admitted
  exact fun same => ne_run_of_admits admits (Option.some.inj same)

/-! ## Behind the latest star -/

/-- `pattern` and `key` are left of `after` and `left` once some tokens, none of them a
star, have each taken a byte. -/
inductive Follows (after : Pattern) (left : Bytes) : Pattern → Bytes → Prop where
  | start : Follows after left after left
  | byte {b : UInt8} {pattern rest : Pattern} {key : Bytes}
      (follows : Follows after left pattern (b :: key))
      (admitted : afterByte? b pattern = some rest) : Follows after left rest key

namespace Follows

variable {after pattern : Pattern} {left key : Bytes}

theorem isSuffix (follows : Follows after left pattern key) : key <:+ left := by
  induction follows with
  | start => exact List.suffix_rfl
  | byte _ _ ih => exact (List.suffix_cons _ _).trans ih

/-- There is one way only in which tokens without a star can have taken their bytes. -/
theorem cuts_iff (follows : Follows after left pattern key) :
    Cuts after left ↔ Cuts pattern key := by
  induction follows with
  | start => rfl
  | byte _ admitted ih =>
    rw [ih, cuts_byte_iff (head?_ne_run_of_afterByte? admitted)]
    simp [admitted]

/-- The bytes that a star takes in front of the tokens can be taken by one behind them. -/
theorem cuts_run (follows : Follows after left pattern key) (cuts : Cuts (.run :: after) left) :
    Cuts (.run :: pattern) key := by
  induction follows with
  | start => exact cuts
  | @byte b pattern rest key _ admitted ih =>
    obtain ⟨token, rfl, admits⟩ := afterByte?_eq_some_iff.1 admitted
    obtain ⟨left, isLeft, cutsLeft⟩ := cuts_run_iff.1 ih
    obtain ⟨part, behind, taken, cutsBehind, rfl⟩ := cuts_cons_iff.1 cutsLeft
    obtain ⟨c, rfl, -⟩ := (Token.takes_iff_of_ne_run (ne_run_of_admits admits)).1 taken
    refine cuts_run_iff.2 ⟨behind, ?_, cutsBehind⟩
    rcases List.suffix_cons_iff.1 isLeft with same | isLeft
    · cases same
      exact List.suffix_rfl
    · exact (List.suffix_cons c behind).trans isLeft

end Follows

/-! ## Matching -/

/-- What a match comes down to: without a star the rest of the pattern has to match where
it stands, with one what follows the star has to match somewhere. -/
def Sought : Option (Pattern × Bytes) → Pattern → Bytes → Prop
  | none, pattern, key => Cuts pattern key
  | some (after, left), _, _ => Cuts (.run :: after) left

/-- The latest star lies in front of the rest of the pattern. -/
def Placed : Option (Pattern × Bytes) → Pattern → Bytes → Prop
  | none, _, _ => True
  | some (after, left), pattern, key => Follows after left pattern key

variable {star : Option (Pattern × Bytes)} {pattern : Pattern} {key : Bytes}

theorem sought_empty_iff (placed : Placed star pattern []) :
    Sought star pattern [] ↔ Cuts pattern [] := by
  cases star with
  | none => rfl
  | some latest =>
    have follows : Follows latest.1 latest.2 pattern [] := placed
    refine ⟨fun cuts => ?_, fun cuts => (follows.cuts_iff.2 cuts).run⟩
    rw [cuts_empty_iff]
    simpa [cuts_empty_iff] using follows.cuts_run cuts

/-- A star takes over from an earlier one. -/
theorem sought_run_iff {rest : Pattern} (placed : Placed star (.run :: rest) key) :
    Sought star (.run :: rest) key ↔ Cuts (.run :: rest) key := by
  cases star with
  | none => rfl
  | some latest =>
    have follows : Follows latest.1 latest.2 (.run :: rest) key := placed
    exact ⟨fun cuts => cuts_run_run_iff.1 (follows.cuts_run cuts),
      fun cuts => (follows.cuts_iff.2 cuts).run⟩

theorem sought_byte_iff {b : UInt8} {rest : Pattern}
    (admitted : afterByte? b pattern = some rest) :
    Sought star pattern (b :: key) ↔ Sought star rest key := by
  cases star with
  | none =>
    have single := head?_ne_run_of_afterByte? admitted
    simp [Sought, cuts_byte_iff single, admitted]
  | some latest => rfl

theorem placed_byte {b : UInt8} {rest : Pattern} (placed : Placed star pattern (b :: key))
    (admitted : afterByte? b pattern = some rest) : Placed star rest key := by
  cases star with
  | none => trivial
  | some latest => exact Follows.byte placed admitted

/-- At a byte that fits nowhere the rest of the pattern does not match. -/
theorem not_cuts_of_mismatch {b : UInt8} (single : ∀ rest, pattern = .run :: rest → False)
    (mismatch : afterByte? b pattern = none) : ¬Cuts pattern (b :: key) := by
  rw [cuts_byte_iff, mismatch]
  · simp
  · rintro same
    obtain ⟨rest, rfl⟩ := List.head?_eq_some_iff.1 same
    exact single rest rfl

/-- The matcher finds what is sought. -/
theorem matchFrom_iff (placed : Placed star pattern key) :
    matchFrom star pattern key = true ↔ Sought star pattern key := by
  fun_induction matchFrom star pattern key with
  | case1 star pattern => rw [sought_empty_iff placed, cuts_empty_iff]
  | case2 star rest b key ih =>
    rw [ih .start, sought_run_iff placed]
    rfl
  | case3 star pattern b key single rest admitted ih =>
    rw [ih (placed_byte placed admitted), sought_byte_iff admitted]
  | case4 pattern b key single mismatch after c left ih =>
    -- The star takes one byte more: with those that it has the match fails here.
    have follows : Follows after (c :: left) pattern (b :: key) := placed
    have fails : ¬Cuts after (c :: left) :=
      mt follows.cuts_iff.1 (not_cuts_of_mismatch single mismatch)
    rw [ih .start]
    exact (cuts_run_cons_iff.trans (or_iff_right fails)).symm
  | case5 star pattern b key single mismatch exhausted =>
    refine iff_of_false Bool.false_ne_true ?_
    rcases star with _ | ⟨after, _ | ⟨c, left⟩⟩
    · exact not_cuts_of_mismatch single mismatch
    · have follows : Follows after [] pattern (b :: key) := placed
      cases List.suffix_nil.1 follows.isSuffix
    · exact (exhausted after c left rfl).elim

theorem isMatch_iff_cuts : isMatch pattern key = true ↔ Cuts pattern key := by
  have matched : matchFrom none pattern key = true ↔ Cuts pattern key := matchFrom_iff trivial
  rw [isMatch, Bool.or_eq_true, matched, or_iff_right_of_imp]
  intro all
  obtain rfl := eq_of_beq all
  exact cuts_run_iff.2 ⟨[], List.nil_suffix, cuts_nil_iff.2 rfl⟩

/-- Every text spells one pattern, and a key matches just when it can be cut into parts
that the tokens of that pattern take in turn. -/
theorem isMatch_ofText_iff (text : String) (key : Bytes) :
    (∃! pattern, Spells (Text.encode text) pattern) ∧
      (isMatch (ofText text) key = true ↔
        ∃ pattern, Spells (Text.encode text) pattern ∧ Cuts pattern key) := by
  constructor
  · exact ⟨ofText text, spells_tokensFrom _, fun pattern spells => spells.eq_tokensFrom⟩
  · simp only [spells_iff, exists_eq_left]
    exact isMatch_iff_cuts

end KeyConsole.Glob
