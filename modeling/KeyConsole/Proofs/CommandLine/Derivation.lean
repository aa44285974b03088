import KeyConsole.Proofs.CommandLine.Grammar

/-!
# One way to take a line apart

Every part of a line shows what it is by its first characters: a blank, a bare character,
the quote that opens a group, a backslash and what follows it.  A group ends with the first
quote that no backslash takes along, and a token with the first blank outside groups.  So a
line can be taken apart in one way at most, and its tokens are those that this way gives.
-/

namespace KeyConsole.CommandLine

/-! ## Groups -/

-- The first one or two characters tell the kinds of parts apart, and the others their fields.
theorem DoublePart.shows {part other : DoublePart} {left rest : List Char}
    (same : part.chars ++ left = other.chars ++ rest) : part = other ∧ left = rest := by
  cases part <;> cases other <;> grind [chars, controls]

/-- Parts in double quotes can be told apart up to the quote that closes them. -/
theorem legible_double :
    Legible DoublePart.chars (fun _ => True) (fun left => ∃ behind, left = '"' :: behind) where
  last _ := trivial
  next _ := trivial
  shows _ _ same := DoublePart.shows same
  begins {part left} _ := by
    rintro ⟨behind, quote⟩
    cases part with
    | plain c notQuote => exact notQuote (List.cons.inj quote).1
    | control | hex | escaped => exact absurd (List.cons.inj quote).1 (by decide)

/-- A backslash that stands for itself has no quote behind it. -/
theorem Closes.head?_ne {notQuote : '\\' ≠ '\''} {parts : List SinglePart} {left : List Char}
    (closes : Closes (.plain '\\' notQuote :: parts)) :
    (parts.flatMap SinglePart.chars ++ '\'' :: left).head? ≠ some '\'' := by
  cases parts with
  | nil => exact absurd rfl (closes (.plain '\\' notQuote) rfl)
  | cons next parts =>
    rw [List.flatMap_cons, List.append_assoc]
    exact next.head?_chars_append _

/-- Parts in single quotes are the only ones up to the quote that closes them. -/
theorem single_unique {parts others : List SinglePart} {left rest : List Char}
    (closes : Closes parts) (closesOthers : Closes others)
    (same : parts.flatMap SinglePart.chars ++ '\'' :: left
      = others.flatMap SinglePart.chars ++ '\'' :: rest) :
    parts = others ∧ left = rest := by
  induction parts generalizing others with
  | nil =>
    cases others with
    | nil => exact ⟨rfl, (List.cons.inj same).2⟩
    | cons other others =>
      rw [List.flatMap_cons, List.append_assoc] at same
      exact absurd (congrArg List.head? same).symm (other.head?_chars_append _)
  | cons part parts ih =>
    cases others with
    | nil =>
      rw [List.flatMap_cons, List.append_assoc] at same
      exact absurd (congrArg List.head? same) (part.head?_chars_append _)
    | cons other others =>
      rw [List.flatMap_cons, List.flatMap_cons, List.append_assoc, List.append_assoc] at same
      have further := @ih others closes.of_cons closesOthers.of_cons
      cases part with
      | plain c notQuote =>
        cases other with
        | plain d _ =>
          obtain ⟨rfl, behind⟩ := List.cons.inj same
          obtain ⟨rfl, rfl⟩ := further behind
          exact ⟨rfl, rfl⟩
        | quote =>
          obtain ⟨rfl, behind⟩ := List.cons.inj same
          exact absurd (congrArg List.head? behind) closes.head?_ne
      | quote =>
        cases other with
        | plain d _ =>
          obtain ⟨rfl, behind⟩ := List.cons.inj same
          exact absurd (congrArg List.head? behind).symm closesOthers.head?_ne
        | quote =>
          obtain ⟨-, behind⟩ := List.cons.inj same
          obtain ⟨rfl, rfl⟩ := further (List.cons.inj behind).2
          exact ⟨rfl, rfl⟩

/-! ## Segments and tokens -/

theorem Segment.shows {segment other : Segment} {left rest : List Char}
    (same : segment.chars ++ left = other.chars ++ rest) : segment = other ∧ left = rest := by
  cases segment with
  | bare c isBare =>
    cases other with
    | bare d _ =>
      obtain ⟨rfl, rfl⟩ := List.cons.inj same
      exact ⟨rfl, rfl⟩
    | double => exact absurd (List.cons.inj same).1 isBare.2.1
    | single => exact absurd (List.cons.inj same).1 isBare.2.2
  | double parts =>
    cases other with
    | bare d isBare => exact absurd (List.cons.inj same).1.symm isBare.2.1
    | double others =>
      simp only [chars, List.cons_append, List.append_assoc, List.cons.injEq, true_and,
        List.nil_append] at same
      obtain ⟨rfl, behind⟩ := legible_double.unique ⟨left, rfl⟩ ⟨rest, rfl⟩ same
      exact ⟨rfl, (List.cons.inj behind).2⟩
    | single => exact absurd (List.cons.inj same).1 (by decide)
  | single parts closes =>
    cases other with
    | bare d isBare => exact absurd (List.cons.inj same).1.symm isBare.2.2
    | double => exact absurd (List.cons.inj same).1 (by decide)
    | single others closesOthers =>
      simp only [chars, List.cons_append, List.append_assoc, List.cons.injEq, true_and,
        List.nil_append] at same
      obtain ⟨rfl, rfl⟩ := single_unique closes closesOthers same
      exact ⟨rfl, rfl⟩

/-- Characters begin with one that is no blank. -/
def Visible (cs : List Char) : Prop :=
  ∃ c behind, cs = c :: behind ∧ Text.isBlank c = false

theorem Segment.visible_append (segment : Segment) (left : List Char) :
    Visible (segment.chars ++ left) := by
  cases segment with
  | bare c isBare => exact ⟨c, left, rfl, isBare.1⟩
  | double | single => exact ⟨_, _, rfl, by decide⟩

theorem Visible.not_endsToken {cs : List Char} (visible : Visible cs) : ¬EndsToken cs := by
  obtain ⟨c, behind, rfl, notBlank⟩ := visible
  intro blank
  exact Bool.false_ne_true (notBlank.symm.trans blank)

/-- Segments can be told apart up to the end of a token. -/
theorem legible_segments : Legible Segment.chars (fun _ => True) EndsToken where
  last _ := trivial
  next _ := trivial
  shows _ _ same := Segment.shows same
  begins {segment left} _ := (segment.visible_append left).not_endsToken

theorem Token.visible_append (token : Token) (left : List Char) :
    Visible (token.chars ++ left) := by
  obtain ⟨segment, segments, split⟩ := List.exists_cons_of_ne_nil token.nonempty
  rw [chars, split, List.flatMap_cons, List.append_assoc]
  exact segment.visible_append _

theorem Token.shows {token other : Token} {left rest : List Char} (leftEnds : EndsToken left)
    (restEnds : EndsToken rest) (same : token.chars ++ left = other.chars ++ rest) :
    token = other ∧ left = rest := by
  obtain ⟨segments, behind⟩ := legible_segments.unique leftEnds restEnds same
  exact ⟨Token.ext segments, behind⟩

/-! ## Blanks and lines -/

theorem Blanks.shows {blanks other : Blanks} {left rest : List Char} (leftVisible : Visible left)
    (restVisible : Visible rest) (same : blanks.chars ++ left = other.chars ++ rest) :
    blanks = other ∧ left = rest := by
  have taken {blanks : Blanks} {left : List Char} (visible : Visible left) :
      (blanks.chars ++ left).takeWhile Text.isBlank = blanks.chars := by
    obtain ⟨c, behind, rfl, notBlank⟩ := visible
    rw [List.takeWhile_append_of_pos blanks.blank, List.takeWhile_cons_of_neg (by simp [notBlank]),
      List.append_nil]
  obtain rfl : blanks = other := by
    ext1
    rw [← taken leftVisible, same, taken restVisible]
  exact ⟨rfl, List.append_cancel_left same⟩

theorem Blanks.endsToken (blanks : Blanks) : EndsToken blanks.chars := by
  rcases blanks with ⟨_ | ⟨c, cs⟩, blank⟩
  · trivial
  · exact blank c List.mem_cons_self

theorem Gap.endsToken_append (gap : Gap) (left : List Char) : EndsToken (gap.chars ++ left) :=
  endsToken_blanks_append gap.blank gap.nonempty left

/-- Blanks hold nothing visible. -/
theorem Blanks.ne_append_visible (blanks : Blanks) {front left : List Char}
    (visible : Visible left) : blanks.chars ≠ front ++ left := by
  obtain ⟨c, behind, rfl, notBlank⟩ := visible
  intro same
  have blank := blanks.blank c (by simp [same])
  exact Bool.false_ne_true (notBlank.symm.trans blank)

/-- What the last token of a line and the blanks behind it leave. -/
def EndsLine (left : List Char) : Prop :=
  ∃ (last : Token) (after : Blanks), left = last.chars ++ after.chars

/-- Tokens with gaps behind them can be told apart up to the last token. -/
theorem legible_gapped : Legible Line.gapped Visible EndsLine where
  last := by
    rintro left ⟨last, after, rfl⟩
    exact last.visible_append _
  next {pair left} _ := by
    rw [Line.gapped, List.append_assoc]
    exact pair.1.visible_append _
  shows {pair other left rest} leftVisible restVisible same := by
    rcases pair with ⟨token, gap⟩
    rcases other with ⟨otherToken, otherGap⟩
    rw [Line.gapped, Line.gapped, List.append_assoc, List.append_assoc] at same
    obtain ⟨rfl, behind⟩ :=
      Token.shows (gap.endsToken_append left) (otherGap.endsToken_append rest) same
    obtain ⟨blanks, rfl⟩ := Blanks.shows leftVisible restVisible behind
    obtain rfl : gap = otherGap := Gap.ext (congrArg Blanks.chars blanks)
    exact ⟨rfl, rfl⟩
  begins {pair left} visible := by
    rintro ⟨last, after, same⟩
    rw [Line.gapped, List.append_assoc] at same
    obtain ⟨-, behind⟩ := Token.shows (pair.2.endsToken_append left) after.endsToken same
    exact after.ne_append_visible visible behind.symm

/-- Characters can be taken apart in one way at most. -/
theorem Line.eq_of_chars_eq {line other : Line} (same : line.chars = other.chars) :
    line = other := by
  have visible (others : List (Token × Gap)) (last : Token) (after : Blanks) :
      Visible (others.flatMap gapped ++ (last.chars ++ after.chars)) :=
    legible_gapped.follows ⟨last, after, rfl⟩
  cases line with
  | blank blanks =>
    cases other with
    | blank others => exact congrArg blank (Blanks.ext same)
    | filled before others last after =>
      exact absurd same (blanks.ne_append_visible (visible others last after))
  | filled before pairs last after =>
    cases other with
    | blank blanks => exact absurd same.symm (blanks.ne_append_visible (visible pairs last after))
    | filled otherBefore otherPairs otherLast otherAfter =>
      obtain ⟨rfl, behind⟩ := Blanks.shows (visible _ _ _) (visible _ _ _) same
      obtain ⟨rfl, ended⟩ :=
        legible_gapped.unique ⟨last, after, rfl⟩ ⟨otherLast, otherAfter, rfl⟩ behind
      obtain ⟨rfl, blanks⟩ := Token.shows after.endsToken otherAfter.endsToken ended
      obtain rfl : after = otherAfter := Blanks.ext blanks
      rfl

/-! ## The tokens of a line -/

theorem tokens_of_chars {text : String} {line : Line} (apart : line.chars = text.toList) :
    tokens text = .ok line.tokens := by
  rw [tokens_eq_ok_iff, ← apart]
  exact line.scan_chars

/-- A text is a line, or tokenizing reports the group that is not closed behind one. -/
theorem line_or_openGroup (text : String) :
    (∃ line : Line, line.chars = text.toList) ∨
      ∃ (front : Line) (left : List Char) (flaw : Flaw), text.toList = front.chars ++ left ∧
        OpenGroup left flaw ∧ tokens text = .error flaw.error := by
  obtain ⟨line, left, split, rfl | ⟨flaw, opened⟩⟩ := exists_line_append text.toList
  · rw [List.append_nil] at split
    exact Or.inl ⟨line, split.symm⟩
  · refine Or.inr ⟨line, left, flaw, split, opened, ?_⟩
    rw [tokens, scan_eq_error_iff.2 ⟨line, left, split, opened⟩]
    rfl

theorem Flaw.isInvalidArgument (flaw : Flaw) :
    ∃ message, flaw.error = .invalidArgument message := by
  cases flaw <;> exact ⟨_, rfl⟩

/-- A text has tokens just when it can be taken apart as a line.  There is one way to do so,
and the tokens are the ones that it gives.  Any other text is an invalid argument, and what
is invalid is a group that is not closed. -/
theorem tokens_eq_iff_line (text : String) :
    (∀ found, tokens text = .ok found ↔
      ∃ line : Line, line.chars = text.toList ∧ line.tokens = found) ∧
    (∀ line other : Line, line.chars = text.toList → other.chars = text.toList →
      line = other) ∧
    ((¬∃ line : Line, line.chars = text.toList) →
      ∃ (front : Line) (left : List Char) (flaw : Flaw) (message : String),
        text.toList = front.chars ++ left ∧ OpenGroup left flaw ∧
        flaw.error = .invalidArgument message ∧
        tokens text = .error (.invalidArgument message)) := by
  refine ⟨fun found => ⟨fun read => ?_, ?_⟩, ?_, fun notLine => ?_⟩
  · rcases line_or_openGroup text with ⟨line, apart⟩ | ⟨_, _, flaw, -, -, failed⟩
    · exact ⟨line, apart, Except.ok.inj ((tokens_of_chars apart).symm.trans read)⟩
    · rw [read] at failed
      cases failed
  · rintro ⟨line, apart, rfl⟩
    exact tokens_of_chars apart
  · intro line other apart otherwise
    exact Line.eq_of_chars_eq (apart.trans otherwise.symm)
  · obtain ⟨front, left, flaw, split, opened, failed⟩ :=
      (line_or_openGroup text).resolve_left notLine
    obtain ⟨message, invalid⟩ := flaw.isInvalidArgument
    exact ⟨front, left, flaw, message, split, opened, invalid, invalid ▸ failed⟩

/-- A token of two groups that touch, with escapes of every kind, a bare one with a backslash
and an empty one. -/
theorem tokens_eq_iff_line_mixed :
    (∃ line : Line, line.chars = "\t'it\\'s'\"\\x41\\t\\q'\" \\x ''\"\"".toList ∧
      line.tokens = [[0x69, 0x74, 0x27, 0x73, 0x41, 0x09, 0x71, 0x27], [0x5C, 0x78], []] ∧
      ∀ other : Line, other.chars = line.chars → other = line) ∧
    ∃ (front : Line) (left : List Char) (flaw : Flaw) (message : String),
      "a 'b' \"\\x4".toList = front.chars ++ left ∧ OpenGroup left flaw ∧
      flaw.error = .invalidArgument message ∧
      tokens "a 'b' \"\\x4" = .error (.invalidArgument message) := by
  constructor
  · obtain ⟨accepted, unique, -⟩ := tokens_eq_iff_line "\t'it\\'s'\"\\x41\\t\\q'\" \\x ''\"\""
    obtain ⟨line, apart, tokens⟩ := (accepted _).1 rfl
    refine ⟨line, apart, tokens, fun other same => ?_⟩
    exact unique other line (same.trans apart) apart
  · obtain ⟨accepted, -, rejected⟩ := tokens_eq_iff_line "a 'b' \"\\x4"
    refine rejected ?_
    rintro ⟨line, apart⟩
    have failed : tokens "a 'b' \"\\x4" = .error Flaw.badHexEscape.error := rfl
    rw [(accepted line.tokens).2 ⟨line, apart, rfl⟩] at failed
    cases failed

end KeyConsole.CommandLine
