import KeyConsole.Glob

/-!
# How patterns are spelled

A text spells a pattern if its bytes spell the tokens one after the other: each special
byte begins a token of its own, an open bracket does so if its class is closed, a
backslash takes the byte behind it along, and any other byte stands for itself.  Every
text spells one pattern and no other, the one that is read from it.
-/

namespace KeyConsole.Glob

/-- Bytes begin with the members of a class and the bracket that closes it. -/
inductive SpellsMembers : Bytes → List Member → (after : Bytes) → Prop where
  | close {after : Bytes} : SpellsMembers (0x5D :: after) [] after
  | escaped {b : UInt8} {rest after : Bytes} {members : List Member}
      (others : SpellsMembers rest members after) :
      SpellsMembers (0x5C :: b :: rest) (.byte b :: members) after
  | range {low high : UInt8} {rest after : Bytes} {members : List Member}
      (closes : low ≠ 0x5D) (escapes : low ≠ 0x5C) (upper : high ≠ 0x5D)
      (others : SpellsMembers rest members after) :
      SpellsMembers (low :: 0x2D :: high :: rest) (.range low high :: members) after
  | byte {b : UInt8} {rest after : Bytes} {members : List Member}
      (closes : b ≠ 0x5D) (escapes : b ≠ 0x5C)
      (alone : ∀ high others, rest = 0x2D :: high :: others → high = 0x5D)
      (others : SpellsMembers rest members after) :
      SpellsMembers (b :: rest) (.byte b :: members) after

/-- Bytes begin with a closed class, the opening bracket being left out. -/
inductive SpellsClass : Bytes → Token → (after : Bytes) → Prop where
  | negated {rest after : Bytes} {members : List Member}
      (spells : SpellsMembers rest members after) :
      SpellsClass (0x5E :: rest) (.oneOf true members) after
  | plain {bytes after : Bytes} {members : List Member} (first : bytes.head? ≠ some 0x5E)
      (spells : SpellsMembers bytes members after) :
      SpellsClass bytes (.oneOf false members) after

/-- Bytes spell the tokens of a pattern. -/
inductive Spells : Bytes → Pattern → Prop where
  | nil : Spells [] []
  | run {rest : Bytes} {tokens : Pattern} (others : Spells rest tokens) :
      Spells (0x2A :: rest) (.run :: tokens)
  | any {rest : Bytes} {tokens : Pattern} (others : Spells rest tokens) :
      Spells (0x3F :: rest) (.any :: tokens)
  | closed {rest after : Bytes} {token : Token} {tokens : Pattern}
      (spells : SpellsClass rest token after) (others : Spells after tokens) :
      Spells (0x5B :: rest) (token :: tokens)
  | unclosed {rest : Bytes} {tokens : Pattern}
      (never : ∀ token after, ¬SpellsClass rest token after) (others : Spells rest tokens) :
      Spells (0x5B :: rest) (.byte 0x5B :: tokens)
  | escaped {b : UInt8} {rest : Bytes} {tokens : Pattern} (others : Spells rest tokens) :
      Spells (0x5C :: b :: rest) (.byte b :: tokens)
  | final : Spells [0x5C] [.byte 0x5C]
  | byte {b : UInt8} {rest : Bytes} {tokens : Pattern}
      (plain : b ∉ [0x2A, 0x3F, 0x5B, 0x5C]) (others : Spells rest tokens) :
      Spells (b :: rest) (.byte b :: tokens)

/-! ## Classes -/

/-- A byte that closes nothing, escapes nothing and begins no range is a member. -/
theorem classBody_byte {b : UInt8} {rest : Bytes} (closes : b ≠ 0x5D) (escapes : b ≠ 0x5C)
    (alone : ∀ high others, rest = 0x2D :: high :: others → high = 0x5D) :
    classBody (b :: rest)
      = (classBody rest).map fun (members, used) => (.byte b :: members, used + 1) := by
  rcases rest with _ | ⟨dash, _ | ⟨high, others⟩⟩
  · simp [classBody]
  · simp [classBody, escapes]
  · by_cases ranges : dash = 0x2D
    · subst ranges
      obtain rfl := alone high others rfl
      simp [classBody]
    · simp [classBody, escapes, ranges]

theorem spellsMembers_of_classBody {bytes : Bytes} {members : List Member} {used : Nat}
    (read : classBody bytes = some (members, used)) :
    SpellsMembers bytes members (bytes.drop used) := by
  fun_induction classBody bytes generalizing members used with
  | case1 rest =>
    cases read
    exact .close
  | case2 b rest ih =>
    obtain ⟨⟨others, count⟩, readRest, same⟩ := Option.map_eq_some_iff.1 read
    cases same
    exact .escaped (ih readRest)
  | case3 low rest closes escapes ih =>
    obtain ⟨⟨others, count⟩, readRest, same⟩ := Option.map_eq_some_iff.1 read
    cases same
    refine .byte closes escapes ?_ (.byte (by decide) (by decide) ?_ (ih readRest))
    · rintro _ _ same
      cases same
      rfl
    · rintro _ _ same
      cases same
  | case4 low high rest closes escapes upper ih =>
    obtain ⟨⟨others, count⟩, readRest, same⟩ := Option.map_eq_some_iff.1 read
    cases same
    exact .range closes escapes upper (ih readRest)
  | case5 b rest closes escapes alone ih =>
    obtain ⟨⟨others, count⟩, readRest, same⟩ := Option.map_eq_some_iff.1 read
    cases same
    refine .byte closes ?_ (fun high others same => (alone high others same).elim) (ih readRest)
    rintro rfl
    cases rest with
    | nil => cases readRest
    | cons c rest => exact escapes c rest rfl rfl
  | case6 => cases read

theorem SpellsMembers.classBody_eq {bytes after : Bytes} {members : List Member}
    (spells : SpellsMembers bytes members after) :
    ∃ used, classBody bytes = some (members, used) ∧ bytes.drop used = after := by
  induction spells with
  | close => exact ⟨1, rfl, rfl⟩
  | escaped others ih =>
    obtain ⟨used, read, rfl⟩ := ih
    exact ⟨used + 2, by rw [classBody, read]; rfl, rfl⟩
  | range closes escapes upper others ih =>
    obtain ⟨used, read, rfl⟩ := ih
    exact ⟨used + 3, by rw [classBody, if_neg upper, read]; rfl; all_goals assumption, rfl⟩
  | byte closes escapes alone others ih =>
    obtain ⟨used, read, rfl⟩ := ih
    exact ⟨used + 1, by rw [classBody_byte closes escapes alone, read]; rfl, rfl⟩

theorem bracket_of_head?_ne {bytes : Bytes} (first : bytes.head? ≠ some 0x5E) :
    bracket bytes = (classBody bytes).map fun (members, used) => (.oneOf false members, used) := by
  rw [bracket]
  rintro rest rfl
  exact first rfl

/-- A bracket opens the class that is read behind it. -/
theorem spellsClass_iff {bytes after : Bytes} {token : Token} :
    SpellsClass bytes token after ↔
      ∃ used, bracket bytes = some (token, used) ∧ bytes.drop used = after := by
  constructor
  · intro spells
    cases spells with
    | negated members =>
      obtain ⟨used, read, rfl⟩ := members.classBody_eq
      exact ⟨used + 1, by rw [bracket, read]; rfl, rfl⟩
    | plain first members =>
      obtain ⟨used, read, rfl⟩ := members.classBody_eq
      exact ⟨used, by rw [bracket_of_head?_ne first, read]; rfl, rfl⟩
  · rintro ⟨used, read, rfl⟩
    by_cases first : bytes.head? = some 0x5E
    · obtain ⟨rest, rfl⟩ := List.head?_eq_some_iff.1 first
      obtain ⟨⟨members, count⟩, readRest, same⟩ := Option.map_eq_some_iff.1 read
      cases same
      exact .negated (spellsMembers_of_classBody readRest)
    · rw [bracket_of_head?_ne first] at read
      obtain ⟨⟨members, count⟩, readAll, same⟩ := Option.map_eq_some_iff.1 read
      cases same
      exact .plain first (spellsMembers_of_classBody readAll)

theorem bracket_eq_none_iff {bytes : Bytes} :
    bracket bytes = none ↔ ∀ token after, ¬SpellsClass bytes token after := by
  simp [Option.eq_none_iff_forall_not_mem, spellsClass_iff]

/-! ## Patterns -/

/-- Skipping bytes is the same as leaving them out. -/
theorem tokensFrom_eq_drop (skip : Nat) (bytes : Bytes) :
    tokensFrom skip bytes = tokensFrom 0 (bytes.drop skip) := by
  induction bytes generalizing skip with
  | nil => rw [List.drop_nil, tokensFrom, tokensFrom]
  | cons b rest ih =>
    cases skip with
    | zero => rfl
    | succ skip => rw [tokensFrom, ih, List.drop_succ_cons]

theorem Spells.eq_tokensFrom {bytes : Bytes} {tokens : Pattern} (spells : Spells bytes tokens) :
    tokens = tokensFrom 0 bytes := by
  induction spells with
  | nil => rfl
  | run others ih => rw [ih]; rfl
  | any others ih => rw [ih]; rfl
  | closed spells others ih =>
    obtain ⟨used, read, rfl⟩ := spellsClass_iff.1 spells
    rw [ih, ← tokensFrom_eq_drop]
    simp [tokensFrom, read]
  | unclosed never others ih =>
    rw [ih]
    simp [tokensFrom, bracket_eq_none_iff.2 never]
  | escaped others ih => rw [ih]; rfl
  | final => rfl
  | byte plain others ih =>
    rw [ih]
    simp_all [tokensFrom]

/-- The pattern that is read from bytes is spelled by them. -/
theorem spells_tokensFrom (bytes : Bytes) : Spells bytes (tokensFrom 0 bytes) := by
  match bytes with
  | [] => exact .nil
  | b :: rest =>
    have others := spells_tokensFrom rest
    simp only [tokensFrom]
    split
    · next isStar =>
      cases isStar
      exact .run others
    split
    · next isAny =>
      cases isAny
      exact .any others
    split
    · next isOpen =>
      cases isOpen
      split
      · next token used read =>
        rw [tokensFrom_eq_drop]
        exact .closed (spellsClass_iff.2 ⟨used, read, rfl⟩) (spells_tokensFrom (rest.drop used))
      · next unread => exact .unclosed (bracket_eq_none_iff.1 unread) others
    split
    · next isBackslash =>
      cases isBackslash
      cases rest with
      | nil => exact .final
      | cons c rest => exact .escaped (spells_tokensFrom rest)
    · exact .byte (by simp_all) others
termination_by bytes.length

/-- A pattern is spelled by the bytes from which it is read, and by no others. -/
theorem spells_iff {bytes : Bytes} {tokens : Pattern} :
    Spells bytes tokens ↔ tokens = tokensFrom 0 bytes := by
  constructor
  · exact Spells.eq_tokensFrom
  · rintro rfl
    exact spells_tokensFrom bytes

end KeyConsole.Glob
