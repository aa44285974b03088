import KeyConsole.Command.Table
import KeyConsole.Proofs.Text.Ascii
import Mathlib.Data.List.Basic
import Mathlib.Data.List.Induction

/-!
# Looking up a command

A name matches the tokens whose words, put together, are its words up to the
case of ASCII letters.  Of the names that match, a longer one takes up more
tokens: no token without words can be taken up, so that more tokens hold more
words.  Looking for the most tokens therefore finds the name with the most words,
and the first of several with as many.
-/

namespace KeyConsole

namespace CommandInfo

/-! ## Names that match -/

/-- Words without regard to the case of ASCII letters. -/
def folded (words : List Bytes) : List Bytes :=
  words.map (·.map Text.lowerByte)

/-- The words that tokens hold, one token after the other. -/
def heldWords (tokens : List Bytes) : List Bytes :=
  tokens.flatMap Text.asciiWords

/-- The first `n` tokens spell the words: at least one token is used, each holds a
word, and what they hold is the words up to case. -/
structure Spells (expected tokens : List Bytes) (n : Nat) : Prop where
  positive : 1 ≤ n
  available : n ≤ tokens.length
  filled : ∀ token ∈ tokens.take n, Text.asciiWords token ≠ []
  same : folded (heldWords (tokens.take n)) = folded expected

/-- A call begins with the name, spelled by its first `n` tokens. -/
abbrev IsCandidate (info : CommandInfo) (argv : List Bytes) (n : Nat) : Prop :=
  Spells info.nameWords argv n

theorem folded_append (words others : List Bytes) :
    folded (words ++ others) = folded words ++ folded others :=
  List.map_append

theorem length_folded (words : List Bytes) : (folded words).length = words.length :=
  List.length_map _

theorem length_eq_of_folded {words others : List Bytes} (same : folded words = folded others) :
    words.length = others.length := by
  rw [← length_folded words, same, length_folded]

theorem folded_eq_nil_iff {words : List Bytes} : folded words = [] ↔ words = [] :=
  List.map_eq_nil_iff

/-- What is left when words are dropped is what follows them. -/
theorem dropWords?_eq_some_iff {words expected rest : List Bytes} :
    dropWords? words expected = some rest
      ↔ ∃ front, expected = front ++ rest ∧ folded words = folded front := by
  induction words generalizing expected with
  | nil =>
    simp only [dropWords?, Option.some.injEq]
    constructor
    · rintro rfl
      exact ⟨[], rfl, rfl⟩
    · rintro ⟨front, rfl, same⟩
      rw [folded_eq_nil_iff.1 same.symm, List.nil_append]
  | cons word words ih =>
    cases expected with
    | nil =>
      simp only [dropWords?, reduceCtorEq, false_iff]
      rintro ⟨front, split, same⟩
      have := length_eq_of_folded same
      simp_all
    | cons first expected =>
      by_cases agree : word.map Text.lowerByte = first.map Text.lowerByte
      · simp only [dropWords?, Text.sameLettersBytes, beq_iff_eq, agree, if_true, ih]
        constructor
        · rintro ⟨front, rfl, same⟩
          refine ⟨first :: front, rfl, ?_⟩
          simpa [folded, agree] using same
        · rintro ⟨front, split, same⟩
          obtain _ | ⟨head, front⟩ := front
          · simp [folded] at same
          · obtain ⟨rfl, rfl⟩ := List.cons.inj split
            exact ⟨front, rfl, (List.cons.inj same).2⟩
      · simp only [dropWords?, Text.sameLettersBytes, beq_iff_eq, agree, if_false, reduceCtorEq,
          false_iff]
        rintro ⟨front, split, same⟩
        obtain _ | ⟨head, front⟩ := front
        · simp [folded] at same
        · obtain ⟨rfl, -⟩ := List.cons.inj split
          exact agree (List.cons.inj same).1

/-- Behind words that are dropped, the rest has to be spelled. -/
theorem folded_append_eq_iff {words expected rest held : List Bytes}
    (dropped : dropWords? words expected = some rest) :
    folded (words ++ held) = folded expected ↔ folded held = folded rest := by
  obtain ⟨front, rfl, same⟩ := dropWords?_eq_some_iff.1 dropped
  rw [folded_append, folded_append, same, List.append_cancel_left_eq]

/-- Words that are the beginning of others can be dropped. -/
theorem exists_dropWords? {words held expected : List Bytes}
    (same : folded (words ++ held) = folded expected) :
    ∃ rest, dropWords? words expected = some rest := by
  rw [folded_append] at same
  refine ⟨expected.drop words.length, dropWords?_eq_some_iff.2 ⟨expected.take words.length,
    (List.take_append_drop _ _).symm, ?_⟩⟩
  have := congrArg (List.take words.length) same
  rwa [← length_folded words, List.take_left, length_folded, folded, folded, ← List.map_take]
    at this

theorem heldWords_eq_nil_iff {tokens : List Bytes}
    (filled : ∀ token ∈ tokens, Text.asciiWords token ≠ []) :
    heldWords tokens = [] ↔ tokens = [] := by
  cases tokens with
  | nil => simp [heldWords]
  | cons token tokens => simp [heldWords, filled token List.mem_cons_self]

/-- A first token is taken up when its words can be dropped, and the rest of the
words, if any is left, is spelled by the tokens behind it. -/
theorem spells_cons_iff {expected rest tokens : List Bytes} {token : Bytes}
    (held : Text.asciiWords token ≠ [])
    (dropped : dropWords? (Text.asciiWords token) expected = some rest) (n : Nat) :
    Spells expected (token :: tokens) (n + 1)
      ↔ (n = 0 ∧ rest = []) ∨ (rest ≠ [] ∧ Spells rest tokens n) := by
  have taken : heldWords ((token :: tokens).take (n + 1))
      = Text.asciiWords token ++ heldWords (tokens.take n) := by
    simp [heldWords]
  constructor
  · intro spells
    have same := (folded_append_eq_iff dropped).1 (taken ▸ spells.same)
    have filled : ∀ other ∈ tokens.take n, Text.asciiWords other ≠ [] := by
      intro other mem
      apply spells.filled
      rw [List.take_succ_cons]
      exact List.mem_cons_of_mem _ mem
    have available : n ≤ tokens.length := by
      have := spells.available
      rw [List.length_cons] at this
      omega
    cases n with
    | zero => exact .inl ⟨rfl, folded_eq_nil_iff.1 same.symm⟩
    | succ n =>
      refine .inr ⟨?_, Nat.le_add_left 1 n, available, filled, same⟩
      rintro rfl
      have empty := (heldWords_eq_nil_iff filled).1 (folded_eq_nil_iff.1 same)
      have := congrArg List.length empty
      rw [List.length_take, List.length_nil] at this
      omega
  · rintro (⟨rfl, rfl⟩ | ⟨-, spells⟩)
    · refine ⟨Nat.le_refl 1, by simp, by simpa using held, ?_⟩
      rw [taken, folded_append_eq_iff dropped]
      simp [heldWords]
    · refine ⟨by omega, ?_, ?_, ?_⟩
      · rw [List.length_cons]
        exact Nat.succ_le_succ spells.available
      · rw [List.take_succ_cons, List.forall_mem_cons]
        exact ⟨held, spells.filled⟩
      · rw [taken, folded_append_eq_iff dropped]
        exact spells.same

/-- The matcher finds exactly the number of tokens that spell the words. -/
theorem spelled_eq_some_iff {expected tokens : List Bytes} {n : Nat} :
    spelled expected tokens = some n ↔ Spells expected tokens n := by
  induction tokens generalizing expected n with
  | nil =>
    simp only [spelled, reduceCtorEq, false_iff]
    intro spells
    have := spells.positive
    have := spells.available
    simp_all
  | cons token tokens ih =>
    obtain _ | n := n
    · constructor
      · intro found
        rw [spelled] at found
        split at found
        · cases found
        · split at found <;> simp at found
      · intro spells
        exact absurd spells.positive (by omega)
    rw [spelled]
    cases held : Text.asciiWords token with
    | nil =>
      simp only [reduceCtorEq, false_iff]
      intro spells
      exact spells.filled token (by simp) held
    | cons word words =>
      have some_held : Text.asciiWords token ≠ [] := by simp [held]
      cases dropped : dropWords? (word :: words) expected with
      | none =>
        simp only [dropped, reduceCtorEq, false_iff]
        intro spells
        have same := spells.same
        rw [List.take_succ_cons, heldWords, List.flatMap_cons, held] at same
        obtain ⟨rest, found⟩ := exists_dropWords? same
        rw [dropped] at found
        cases found
      | some rest =>
        rw [spells_cons_iff some_held (held ▸ dropped)]
        cases rest with
        | nil => simp [dropped]
        | cons next rest => simp [dropped, ih]

theorem matchLength_eq_some_iff {info : CommandInfo} {argv : List Bytes} {n : Nat} :
    info.matchLength argv = some n ↔ info.IsCandidate argv n :=
  spelled_eq_some_iff

/-- Words are spelled by one number of tokens only. -/
theorem Spells.unique {expected tokens : List Bytes} {n m : Nat}
    (spells : Spells expected tokens n) (again : Spells expected tokens m) : n = m :=
  Option.some.inj ((spelled_eq_some_iff.2 spells).symm.trans (spelled_eq_some_iff.2 again))

theorem Spells.length_eq {expected tokens : List Bytes} {n : Nat}
    (spells : Spells expected tokens n) :
    expected.length = (heldWords (tokens.take n)).length :=
  (length_eq_of_folded spells.same).symm

/-- More tokens spell more words. -/
theorem Spells.length_lt {shorter longer tokens : List Bytes} {n m : Nat}
    (first : Spells shorter tokens n) (second : Spells longer tokens m) (more : n < m) :
    shorter.length < longer.length := by
  have split : tokens.take m = tokens.take n ++ (tokens.take m).drop n := by
    conv => lhs; rw [← List.take_append_drop n (tokens.take m), List.take_take,
      Nat.min_eq_left (Nat.le_of_lt more)]
  have filled : ∀ token ∈ (tokens.take m).drop n, Text.asciiWords token ≠ [] :=
    fun token mem => second.filled token (List.mem_of_mem_drop mem)
  have further : (tokens.take m).drop n ≠ [] := by
    intro empty
    have := congrArg List.length empty
    rw [List.length_drop, List.length_take, List.length_nil] at this
    have := second.available
    omega
  have held := List.length_pos_iff.2 ((heldWords_eq_nil_iff filled).not.2 further)
  rw [first.length_eq, second.length_eq, split, heldWords, heldWords, List.flatMap_append,
    List.length_append]
  exact Nat.lt_add_of_pos_right held

/-- Of two names that a call begins with, the one with more words takes up more
tokens. -/
theorem Spells.le_iff {words others tokens : List Bytes} {n m : Nat}
    (first : Spells words tokens n) (second : Spells others tokens m) :
    n ≤ m ↔ words.length ≤ others.length := by
  rcases Nat.lt_trichotomy n m with less | rfl | more
  · have := first.length_lt second less
    omega
  · have := first.length_eq.trans second.length_eq.symm
    omega
  · have := second.length_lt first more
    omega

theorem Spells.lt_iff {words others tokens : List Bytes} {n m : Nat}
    (first : Spells words tokens n) (second : Spells others tokens m) :
    n < m ↔ words.length < others.length := by
  rw [← Nat.not_le, ← Nat.not_le, second.le_iff first]

/-- Words that are words of bytes, one token each, spell themselves. -/
theorem spells_self {expected : List Bytes} (nonempty : expected ≠ [])
    (single : ∀ word ∈ expected, Text.asciiWords word = [word]) :
    Spells expected expected expected.length := by
  have held : heldWords expected = expected := by
    rw [heldWords, List.flatMap_congr single, List.flatMap_singleton']
  refine ⟨List.length_pos_iff.2 nonempty, Nat.le_refl _, ?_, ?_⟩
  · rw [List.take_length]
    intro word mem
    simp [single word mem]
  · rw [List.take_length, held]

/-! ## The longest match -/

/-- `thing` has the largest number `n` among things of which some have one, and is
the first that has it. -/
def IsFirstLargest {α : Type} (number : α → Option Nat) (things : List α) (thing : α)
    (n : Nat) : Prop :=
  number thing = some n ∧ ∃ before after, things = before ++ thing :: after ∧
    (∀ other ∈ before, ∀ m, number other = some m → m < n) ∧
    (∀ other ∈ after, ∀ m, number other = some m → m ≤ n)

/-- What is known of the best match once some things have been seen. -/
def IsBest {α : Type} (number : α → Option Nat) (things : List α) : Option (α × Nat) → Prop
  | none => ∀ thing ∈ things, number thing = none
  | some (thing, n) => IsFirstLargest number things thing n

/-- One more thing to choose from. -/
theorem IsBest.better {α : Type} {number : α → Option Nat} {things : List α}
    {best : Option (α × Nat)} (isBest : IsBest number things best) (thing : α) :
    IsBest number (things ++ [thing]) (better best thing (number thing)) := by
  cases length : number thing with
  | none =>
    cases best with
    | none =>
      simp only [CommandInfo.better, IsBest, List.forall_mem_append, List.forall_mem_singleton]
      exact ⟨isBest, length⟩
    | some best =>
      obtain ⟨chosen, m⟩ := best
      obtain ⟨chosenLength, before, after, rfl, shorter, noLonger⟩ := isBest
      refine ⟨chosenLength, before, after ++ [thing], by simp, shorter, ?_⟩
      simp only [List.forall_mem_append, List.forall_mem_singleton, length]
      exact ⟨noLonger, nofun⟩
  | some n =>
    cases best with
    | none =>
      refine ⟨length, things, [], rfl, ?_, nofun⟩
      intro other mem m isLength
      rw [isBest other mem] at isLength
      cases isLength
    | some best =>
      obtain ⟨chosen, m⟩ := best
      obtain ⟨chosenLength, before, after, rfl, shorter, noLonger⟩ := isBest
      by_cases le : n ≤ m
      · rw [CommandInfo.better, if_pos le]
        refine ⟨chosenLength, before, after ++ [thing], by simp, shorter, ?_⟩
        simp only [List.forall_mem_append, List.forall_mem_singleton, length, Option.some.injEq]
        refine ⟨noLonger, ?_⟩
        rintro _ rfl
        exact le
      · rw [CommandInfo.better, if_neg le]
        refine ⟨length, before ++ chosen :: after, [], rfl, ?_, nofun⟩
        simp only [List.forall_mem_append, List.forall_mem_cons, chosenLength, Option.some.injEq]
        refine ⟨fun other mem k isLength => ?_, ?_, fun other mem k isLength => ?_⟩
        · have := shorter other mem k isLength
          omega
        · rintro _ rfl
          omega
        · have := noLonger other mem k isLength
          omega

theorem isBest_longestMatch {α : Type} (info : α → CommandInfo) (things : List α)
    (argv : List Bytes) :
    IsBest (fun thing => (info thing).matchLength argv) things
      (longestMatch info things argv) := by
  induction things using List.reverseRecOn with
  | nil => exact nofun
  | append_singleton things thing ih =>
    rw [longestMatch, List.foldl_append]
    exact ih.better thing

/-- There is only one first with the largest number. -/
theorem IsFirstLargest.unique {α : Type} {number : α → Option Nat} {things : List α}
    {thing other : α} {n m : Nat} (first : IsFirstLargest number things thing n)
    (again : IsFirstLargest number things other m) : thing = other ∧ n = m := by
  obtain ⟨length, before, after, rfl, shorter, noLonger⟩ := first
  obtain ⟨length', before', after', split, shorter', noLonger'⟩ := again
  -- whichever of the two stands first would be shorter than the other
  rcases List.append_eq_append_iff.1 split with ⟨mid, rfl, rest⟩ | ⟨mid, rfl, rest⟩
  · obtain _ | ⟨head, mid⟩ := mid
    · obtain ⟨rfl, -⟩ := List.cons.inj rest
      exact ⟨rfl, Option.some.inj (length.symm.trans length')⟩
    · obtain ⟨rfl, rfl⟩ := List.cons.inj rest
      have := shorter' thing (by simp) n length
      have := noLonger other (by simp) m length'
      omega
  · obtain _ | ⟨head, mid⟩ := mid
    · obtain ⟨rfl, -⟩ := List.cons.inj rest
      exact ⟨rfl, Option.some.inj (length.symm.trans length')⟩
    · obtain ⟨rfl, rfl⟩ := List.cons.inj rest
      have := shorter other (by simp) m length'
      have := noLonger' thing (by simp) n length
      omega

end CommandInfo

namespace CommandTable

open CommandInfo

variable {σ : Type} {table : CommandTable σ} {argv : List Bytes}

/-- A command is the first of those whose names, among the names that a call begins
with, have the most words. -/
structure IsLongestName (table : CommandTable σ) (argv : List Bytes) (command : Command σ)
    (n : Nat) : Prop where
  candidate : command.info.IsCandidate argv n
  first : ∃ before after, table = before ++ command :: after ∧
    (∀ other ∈ before, ∀ m, other.info.IsCandidate argv m →
      other.info.nameWords.length < command.info.nameWords.length) ∧
    (∀ other ∈ after, ∀ m, other.info.IsCandidate argv m →
      other.info.nameWords.length ≤ command.info.nameWords.length)

theorem isLongestName_iff {command : Command σ} {n : Nat} :
    IsLongestName table argv command n
      ↔ IsFirstLargest (fun command => command.info.matchLength argv) table command n := by
  simp only [IsFirstLargest, matchLength_eq_some_iff]
  constructor
  · rintro ⟨candidate, before, after, split, shorter, noLonger⟩
    refine ⟨candidate, before, after, split, fun other mem m isCandidate => ?_,
      fun other mem m isCandidate => ?_⟩
    · exact (isCandidate.lt_iff candidate).2 (shorter other mem m isCandidate)
    · exact (isCandidate.le_iff candidate).2 (noLonger other mem m isCandidate)
  · rintro ⟨candidate, before, after, split, shorter, noLonger⟩
    refine ⟨candidate, before, after, split, fun other mem m isCandidate => ?_,
      fun other mem m isCandidate => ?_⟩
    · exact (isCandidate.lt_iff candidate).1 (shorter other mem m isCandidate)
    · exact (isCandidate.le_iff candidate).1 (noLonger other mem m isCandidate)

theorem find_eq_none_iff :
    table.find argv = none
      ↔ ∀ command ∈ table, ∀ n, ¬ command.info.IsCandidate argv n := by
  have isBest := isBest_longestMatch Command.info table argv
  rw [← find] at isBest
  simp only [← matchLength_eq_some_iff]
  cases found : table.find argv with
  | none =>
    rw [found] at isBest
    simp only [true_iff]
    intro command mem n
    simp [isBest command mem]
  | some best =>
    obtain ⟨command, n⟩ := best
    rw [found] at isBest
    obtain ⟨length, before, after, rfl, -⟩ := isBest
    simp only [reduceCtorEq, false_iff, not_forall, not_not]
    exact ⟨command, by simp, n, length⟩

theorem find_eq_some_iff {command : Command σ} {n : Nat} :
    table.find argv = some (command, n) ↔ IsLongestName table argv command n := by
  have isBest := isBest_longestMatch Command.info table argv
  rw [← find] at isBest
  rw [isLongestName_iff]
  constructor
  · intro found
    rwa [found] at isBest
  · intro isFirst
    cases found : table.find argv with
    | none =>
      rw [found] at isBest
      obtain ⟨length, before, after, rfl, -⟩ := isFirst
      rw [isBest command (by simp)] at length
      cases length
    | some best =>
      rw [found] at isBest
      obtain ⟨rfl, rfl⟩ := isFirst.unique isBest
      rfl

/-! ## Lookup by name -/

/-- The words of a text as the tokens of a call. -/
def tokensOf (name : String) : List Bytes :=
  (Text.words name).map Text.encode

theorem asciiWords_of_mem_tokensOf {name : String} {token : Bytes} (mem : token ∈ tokensOf name) :
    Text.asciiWords token = [token] := by
  obtain ⟨word, isWord, rfl⟩ := List.mem_map.1 mem
  exact Text.asciiWords_encode (Text.isWord_of_mem_words isWord)

/-- The tokens of a name are all taken up by the names with the same words up to
case. -/
theorem isCandidate_tokensOf_iff {info : CommandInfo} {name : String}
    (nonblank : tokensOf name ≠ []) :
    info.IsCandidate (tokensOf name) (tokensOf name).length
      ↔ folded info.nameWords = folded (tokensOf name) := by
  have self := spells_self nonblank fun _ => asciiWords_of_mem_tokensOf
  constructor
  · intro candidate
    exact candidate.same.symm.trans self.same
  · intro same
    exact ⟨self.positive, self.available, self.filled, self.same.trans same.symm⟩

theorem hasName_iff {info : CommandInfo} {name : String} :
    info.hasName name = true ↔ folded info.nameWords = folded (tokensOf name) := by
  have lists (words others : List String) :
      words.map (·.toList.map Char.toLower) = others.map (·.toList.map Char.toLower)
        ↔ folded (words.map Text.encode) = folded (others.map Text.encode) := by
    induction words generalizing others with
    | nil => cases others <;> simp [folded]
    | cons word words ih =>
      cases others with
      | nil => simp [folded]
      | cons other others =>
        simp only [List.map_cons, List.cons.injEq, folded, ← Text.map_lowerByte_encode_eq_iff]
        rw [ih]
        rfl
  rw [hasName, beq_iff_eq, lists]
  rfl

/-- A command is found that takes up the whole call exactly when it is the first that
does. -/
theorem find_eq_whole_iff {command : Command σ} :
    table.find argv = some (command, argv.length)
      ↔ command.info.IsCandidate argv argv.length
        ∧ ∃ before after, table = before ++ command :: after
          ∧ ∀ other ∈ before, ¬ other.info.IsCandidate argv argv.length := by
  rw [find_eq_some_iff]
  constructor
  · rintro ⟨candidate, before, after, rfl, shorter, noLonger⟩
    refine ⟨candidate, before, after, rfl, fun other mem isCandidate => ?_⟩
    have := shorter other mem _ isCandidate
    have := candidate.length_eq.trans isCandidate.length_eq.symm
    omega
  · rintro ⟨candidate, before, after, rfl, others⟩
    have noLonger {other : Command σ} {m : Nat} (isCandidate : other.info.IsCandidate argv m) :
        other.info.nameWords.length ≤ command.info.nameWords.length :=
      (isCandidate.le_iff candidate).1 isCandidate.available
    refine ⟨candidate, before, after, rfl, fun other mem m isCandidate => ?_,
      fun other _ m isCandidate => noLonger isCandidate⟩
    refine Nat.lt_of_le_of_ne (noLonger isCandidate) fun sameLength => ?_
    have whole : m = argv.length :=
      Nat.le_antisymm isCandidate.available
        ((candidate.le_iff isCandidate).2 (Nat.le_of_eq sameLength.symm))
    exact others other mem (whole ▸ isCandidate)

/-- A name that takes up the whole call is found, if no other name is the same up to
case. -/
theorem find_of_distinct (distinct : (table.map (folded ·.info.nameWords)).Nodup)
    {command : Command σ} (mem : command ∈ table)
    (candidate : command.info.IsCandidate argv argv.length) :
    table.find argv = some (command, argv.length) := by
  obtain ⟨before, after, rfl⟩ := List.append_of_mem mem
  refine find_eq_whole_iff.2 ⟨candidate, before, after, rfl, fun other isBefore isCandidate => ?_⟩
  rw [List.map_append, List.nodup_append] at distinct
  exact distinct.2.2 _ (List.mem_map_of_mem isBefore) _ (by simp)
    (isCandidate.same.symm.trans candidate.same)

/-- The command with a name is the one that the words of the name call with nothing left
over. -/
theorem get_eq_some_iff {name : String} (nonblank : tokensOf name ≠ []) {command : Command σ} :
    table.get name = some command
      ↔ table.find (tokensOf name) = some (command, (tokensOf name).length) := by
  rw [find_eq_whole_iff, get, List.find?_eq_some_iff_append]
  simp only [hasName_iff, isCandidate_tokensOf_iff nonblank, Bool.not_eq_true',
    ← Bool.not_eq_true]

/-- Lookup goes by the longest name.  A name is spelled by one number of tokens at most,
and more tokens by a name of more words.  A call finds nothing exactly when no name is
spelled at its beginning, and otherwise the first of the names with the most words.  So a
name that no other repeats up to case is found by its words, whatever shorter names there
are, and a text names the command that its words call with nothing left over. -/
theorem find_longest_name {σ : Type} (table : CommandTable σ) :
    (∀ argv : List Bytes,
      (∀ (info : CommandInfo) (n m : Nat),
        info.IsCandidate argv n → info.IsCandidate argv m → n = m) ∧
      (∀ (info other : CommandInfo) (n m : Nat),
        info.IsCandidate argv n → other.IsCandidate argv m →
          (n ≤ m ↔ info.nameWords.length ≤ other.nameWords.length)) ∧
      (table.find argv = none
        ↔ ∀ command ∈ table, ∀ n, ¬ command.info.IsCandidate argv n) ∧
      (∀ (command : Command σ) (n : Nat),
        table.find argv = some (command, n) ↔ IsLongestName table argv command n)) ∧
    ((table.map (folded ·.info.nameWords)).Nodup → ∀ command ∈ table,
      (command.info.nameWords ≠ [] →
        table.find command.info.nameWords
          = some (command, command.info.nameWords.length)) ∧
      ∀ argv : List Bytes, command.info.IsCandidate argv argv.length →
        table.find argv = some (command, argv.length)) ∧
    ∀ name : String, Text.words name ≠ [] → ∀ command : Command σ,
      table.get name = some command
        ↔ table.find (tokensOf name) = some (command, (tokensOf name).length) := by
  refine ⟨fun argv => ⟨?_, ?_, find_eq_none_iff, fun _ _ => find_eq_some_iff⟩, ?_, ?_⟩
  · intro info n m first again
    exact first.unique again
  · intro info other n m first second
    exact first.le_iff second
  · intro distinct command mem
    refine ⟨fun nonblank => find_of_distinct distinct mem ?_,
      fun argv candidate => find_of_distinct distinct mem candidate⟩
    exact spells_self nonblank fun _ => asciiWords_of_mem_tokensOf
  · intro name nonblank command
    exact get_eq_some_iff (by simpa [tokensOf] using nonblank)

/-- A command that has a name and does nothing. -/
def idle (name : String) : Command Unit where
  info :=
    { name, params := "", summary := "", since := none, sample := none, minArgs := 0,
      extraArgs := 0 }
  run := fun _ _ => pure ()

/-- Names are found in any case and grouping, behind their own beginnings. -/
theorem find_longest_name_nested :
    find [idle "GET", idle "GET CONFIG", idle " ", idle "GET  CONFIG ALL"]
        [Text.encode " get", Text.encode "Config\tALL "]
      = some (idle "GET  CONFIG ALL", 2) ∧
    get [idle "GET", idle "GET CONFIG", idle " ", idle "GET  CONFIG ALL"] "get Config"
      = some (idle "GET CONFIG") := by
  have laws := find_longest_name
    [idle "GET", idle "GET CONFIG", idle " ", idle "GET  CONFIG ALL"]
  have distinct := laws.2.1 (by decide)
  constructor
  · exact (distinct (idle "GET  CONFIG ALL") (by simp)).2 _
      (matchLength_eq_some_iff.1 (by decide))
  · rw [laws.2.2 "get Config" (by decide)]
    exact (distinct (idle "GET CONFIG") (by simp)).2 _ (matchLength_eq_some_iff.1 (by decide))

end CommandTable

end KeyConsole
