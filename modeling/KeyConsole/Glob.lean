import KeyConsole.Text.Utf8

/-!
# Glob patterns

A pattern is read from left to right into tokens.  A star takes any run of
bytes, every other token takes one byte that it admits, and a key matches when
it can be cut into such parts.  A star takes as few bytes as it can, and at a
mismatch only the latest one takes one more, so the cost is at most the product
of the two lengths.
-/

namespace KeyConsole.Glob

/-- A member of a class of bytes. -/
inductive Member where
  /-- One byte. -/
  | byte (b : UInt8)
  /-- The bytes from one to another, given in either order. -/
  | range (a b : UInt8)
  deriving DecidableEq, Repr

/-- Whether a byte belongs to a member. -/
def Member.admits (b : UInt8) : Member → Bool
  | byte c => c == b
  | range c d => (c ≤ b && b ≤ d) || (d ≤ b && b ≤ c)

/-- A token of a pattern. -/
inductive Token where
  /-- Any run of bytes. -/
  | run
  /-- Any one byte. -/
  | any
  /-- A byte of a class, or one outside of it. -/
  | oneOf (negated : Bool) (members : List Member)
  /-- A byte that stands for itself. -/
  | byte (b : UInt8)
  deriving DecidableEq, Repr

/-- Whether a token other than a star admits a byte. -/
def Token.admits (b : UInt8) : Token → Bool
  | run => false
  | any => true
  | oneOf negated members => members.any (Member.admits b) != negated
  | byte c => c == b

/-- A pattern. -/
abbrev Pattern := List Token

/-- The members of a class and how many bytes they take up with the closing
bracket; nothing if the class is not closed. -/
def classBody : Bytes → Option (List Member × Nat)
  | 0x5D :: _ => some ([], 1)
  | 0x5C :: b :: rest =>
    (classBody rest).map fun (members, used) => (.byte b :: members, used + 2)
  | low :: 0x2D :: high :: rest =>
    if high = 0x5D then
      (classBody (high :: rest)).map fun (members, used) =>
        (.byte low :: .byte 0x2D :: members, used + 2)
    else
      (classBody rest).map fun (members, used) => (.range low high :: members, used + 3)
  | b :: rest => (classBody rest).map fun (members, used) => (.byte b :: members, used + 1)
  | [] => none

/-- The class behind an opening bracket. -/
def bracket : Bytes → Option (Token × Nat)
  | 0x5E :: rest =>
    (classBody rest).map fun (members, used) => (.oneOf true members, used + 1)
  | rest => (classBody rest).map fun (members, used) => (.oneOf false members, used)

/-- The tokens of a pattern whose first `skip` bytes have been read. -/
def tokensFrom (skip : Nat) : Bytes → Pattern
  | [] => []
  | b :: rest =>
    match skip with
    | skip + 1 => tokensFrom skip rest
    | 0 =>
      if b = 0x2A then .run :: tokensFrom 0 rest
      else if b = 0x3F then .any :: tokensFrom 0 rest
      else if b = 0x5B then
        match bracket rest with
        | some (token, used) => token :: tokensFrom used rest
        | none => .byte b :: tokensFrom 0 rest
      else if b = 0x5C then
        match rest with
        | c :: _ => .byte c :: tokensFrom 1 rest
        | [] => [.byte b]
      else .byte b :: tokensFrom 0 rest

/-- The pattern that a text spells. -/
def ofText (text : String) : Pattern :=
  tokensFrom 0 (Text.encode text)

/-- What is left of a pattern behind its first token, if that admits a byte. -/
def afterByte? (b : UInt8) : Pattern → Option Pattern
  | [] => none
  | token :: rest => if token.admits b then some rest else none

theorem afterByte?_eq_some_iff {b : UInt8} {pattern rest : Pattern} :
    afterByte? b pattern = some rest ↔
      ∃ token, pattern = token :: rest ∧ token.admits b = true := by
  cases pattern with
  | nil => simp [afterByte?]
  | cons token others =>
    simp only [afterByte?, Option.ite_none_right_eq_some, Option.some.injEq, List.cons.injEq]
    constructor
    · rintro ⟨admitted, rfl⟩
      exact ⟨token, ⟨rfl, rfl⟩, admitted⟩
    · rintro ⟨_, ⟨rfl, rfl⟩, admitted⟩
      exact ⟨admitted, rfl⟩

/-- Match what is left of a pattern against what is left of a key.  `star` is
what follows the latest star, and what is left of the key behind the bytes that
this star has taken. -/
def matchFrom (star : Option (Pattern × Bytes)) (pattern : Pattern) (key : Bytes) : Bool :=
  match pattern, key with
  | pattern, [] => pattern.all (· == .run)
  | .run :: rest, b :: key => matchFrom (some (rest, b :: key)) rest (b :: key)
  | pattern, b :: key =>
    match _admitted : afterByte? b pattern with
    | some rest => matchFrom star rest key
    | none =>
      match star with
      | some (after, _ :: left) => matchFrom (some (after, left)) after left
      | _ => false
-- What follows the latest star gets shorter with each star; for one star the
-- bytes that it has left get fewer, and between two of them the pattern does.
termination_by
  (star.elim (pattern.length + 1) fun (after, _) => max after.length pattern.length,
    star.elim 0 fun (_, left) => left.length, pattern.length)
decreasing_by
  all_goals simp only [Prod.lex_def, Option.elim_some, List.length_cons]
  · rcases star with _ | ⟨after, left⟩
    · simp only [Option.elim_none]
      omega
    · simp only [Option.elim_some]
      omega
  · obtain ⟨token, rfl, _⟩ := afterByte?_eq_some_iff.1 _admitted
    rcases star with _ | ⟨after, left⟩
    · simp only [Option.elim_none, List.length_cons]
      omega
    · simp only [Option.elim_some, List.length_cons, true_and]
      omega
  · omega

/-- Whether a pattern is the single star that matches every key. -/
def isMatchAll (pattern : Pattern) : Bool :=
  pattern == [.run]

/-- Whether a pattern matches a key. -/
def isMatch (pattern : Pattern) (key : Bytes) : Bool :=
  isMatchAll pattern || matchFrom none pattern key

end KeyConsole.Glob
