import KeyConsole.Proofs.CommandLine.Spelling
import KeyConsole.Proofs.Rows

/-!
# The grammar of command lines

A line is tokens with blanks around and between them.  A token is one or more segments
that touch: bare characters, groups in double quotes and groups in single quotes.  A line
that is taken apart in this way is scanned into its tokens.  Any other line has a quote
that is not closed, or an escape in double quotes that spells no byte, behind a part that
can be taken apart; scanning reports that.
-/

namespace KeyConsole.CommandLine

/-! ## Groups -/

/-- The letters that stand for control characters behind a backslash. -/
def controls : List (Char × UInt8) := [('n', 0x0A), ('r', 0x0D), ('t', 0x09)]

/-- A part of a group in double quotes. -/
inductive DoublePart where
  /-- A character that stands for itself. -/
  | plain (c : Char) (notQuote : c ≠ '"') (notBackslash : c ≠ '\\')
  /-- A backslash and a letter for a control character. -/
  | control (letter : Char) (b : UInt8) (known : (letter, b) ∈ controls)
  /-- `\x` and two characters that spell a byte. -/
  | hex (high low : Char) (b : UInt8) (spells : Text.hexNumeral? [high, low] = some b)
  /-- A backslash and another character, which stands for itself. -/
  | escaped (c : Char) (other : c ∉ ['n', 'r', 't', 'x'])

namespace DoublePart

/-- The characters of a part. -/
def chars : DoublePart → List Char
  | plain c _ _ => [c]
  | control letter _ _ => ['\\', letter]
  | hex high low _ _ => ['\\', 'x', high, low]
  | escaped c _ => ['\\', c]

/-- The bytes that a part stands for. -/
def bytes : DoublePart → Bytes
  | plain c _ _ => Text.encodeChar c
  | control _ b _ => [b]
  | hex _ _ b _ => [b]
  | escaped c _ => Text.encodeChar c

end DoublePart

/-- A part of a group in single quotes. -/
inductive SinglePart where
  /-- A character that stands for itself. -/
  | plain (c : Char) (notQuote : c ≠ '\'')
  /-- A backslash and a quote, which stand for the quote. -/
  | quote

namespace SinglePart

/-- The characters of a part. -/
def chars : SinglePart → List Char
  | plain c _ => [c]
  | quote => ['\\', '\'']

/-- The bytes that a part stands for. -/
def bytes : SinglePart → Bytes
  | plain c _ => Text.encodeChar c
  | quote => [0x27]

end SinglePart

/-- A quote can close the group of these parts.  Behind a backslash that stands for itself
it could not: the two would stand for a quote. -/
def Closes (parts : List SinglePart) : Prop :=
  ∀ part ∈ parts.getLast?, part.chars ≠ ['\\']

/-! ## Segments, tokens and lines -/

/-- A segment of a token. -/
inductive Segment where
  /-- A character outside quotes, neither a blank nor a quote. -/
  | bare (c : Char) (isBare : IsBare c)
  /-- A group in double quotes. -/
  | double (parts : List DoublePart)
  /-- A group in single quotes. -/
  | single (parts : List SinglePart) (closes : Closes parts)

namespace Segment

/-- The characters of a segment. -/
def chars : Segment → List Char
  | bare c _ => [c]
  | double parts => '"' :: (parts.flatMap DoublePart.chars ++ ['"'])
  | single parts _ => '\'' :: (parts.flatMap SinglePart.chars ++ ['\''])

/-- The bytes of a segment. -/
def bytes : Segment → Bytes
  | bare c _ => Text.encodeChar c
  | double parts => parts.flatMap DoublePart.bytes
  | single parts _ => parts.flatMap SinglePart.bytes

end Segment

/-- A token: one or more segments that touch. -/
@[ext]
structure Token where
  segments : List Segment
  nonempty : segments ≠ []

namespace Token

/-- The characters of a token. -/
def chars (token : Token) : List Char :=
  token.segments.flatMap Segment.chars

/-- The bytes of a token. -/
def bytes (token : Token) : Bytes :=
  token.segments.flatMap Segment.bytes

/-- A token of one segment. -/
def single (segment : Segment) : Token where
  segments := [segment]
  nonempty := List.cons_ne_nil _ _

/-- A token with one segment more. -/
def push (token : Token) (segment : Segment) : Token where
  segments := token.segments ++ [segment]
  nonempty := by simp

end Token

/-- Blanks in a row, or none. -/
@[ext]
structure Blanks where
  chars : List Char
  blank : ∀ c ∈ chars, Text.isBlank c = true

namespace Blanks

/-- No blanks. -/
def none : Blanks := ⟨[], nofun⟩

/-- One blank more. -/
def push (blanks : Blanks) {c : Char} (isBlank : Text.isBlank c = true) : Blanks where
  chars := blanks.chars ++ [c]
  blank := by simpa [or_imp, forall_and] using ⟨blanks.blank, isBlank⟩

end Blanks

/-- One or more blanks in a row. -/
@[ext]
structure Gap extends Blanks where
  nonempty : chars ≠ []

/-- A line that is taken apart. -/
inductive Line where
  /-- A line without tokens. -/
  | blank (blanks : Blanks)
  /-- Tokens, each but the last with the gap behind it, and the blanks around them. -/
  | filled (before : Blanks) (others : List (Token × Gap)) (last : Token) (after : Blanks)

namespace Line

/-- The characters of a token and the gap behind it. -/
def gapped (pair : Token × Gap) : List Char :=
  pair.1.chars ++ pair.2.chars

/-- The characters of a line. -/
def chars : Line → List Char
  | blank blanks => blanks.chars
  | filled before others last after =>
    before.chars ++ (others.flatMap gapped ++ (last.chars ++ after.chars))

/-- The tokens of a line. -/
def tokens : Line → List Bytes
  | blank _ => []
  | filled _ others last _ => others.map (fun pair => pair.1.bytes) ++ [last.bytes]

end Line

/-! ## Scanning what is taken apart -/

theorem scan_double_part (part : DoublePart) (token : Bytes) (rest : List Char) :
    scan .double (some token) (part.chars ++ rest)
      = scan .double (some (token ++ part.bytes)) rest := by
  cases part with
  | plain c notQuote notBackslash => exact scan_double_char notQuote notBackslash (some token) rest
  | control letter b known =>
    simp only [controls, List.mem_cons, Prod.mk.injEq, List.not_mem_nil, or_false] at known
    rcases known with ⟨rfl, rfl⟩ | ⟨rfl, rfl⟩ | ⟨rfl, rfl⟩ <;> rfl
  | hex high low b spells =>
    have pair : Text.bytePair? high low = some b := spells
    rw [DoublePart.chars, List.cons_append, List.cons_append, List.cons_append,
      List.singleton_append, scan_double_hex, pair]
    rfl
  | escaped c other => exact scan_double_escaped other (some token) rest

theorem scan_double_parts (parts : List DoublePart) (token : Bytes) (rest : List Char) :
    scan .double (some token) (parts.flatMap DoublePart.chars ++ rest)
      = scan .double (some (token ++ parts.flatMap DoublePart.bytes)) rest := by
  induction parts generalizing token with
  | nil => simp
  | cons part parts ih =>
    rw [List.flatMap_cons, List.append_assoc, scan_double_part, ih, List.flatMap_cons,
      List.append_assoc]

theorem Closes.of_cons {part : SinglePart} {parts : List SinglePart}
    (closes : Closes (part :: parts)) : Closes parts := by
  cases parts with
  | nil => exact nofun
  | cons next parts => simpa [Closes] using closes

theorem Closes.cons {part : SinglePart} {parts : List SinglePart} (closes : Closes parts)
    (alone : parts = [] → part.chars ≠ ['\\']) : Closes (part :: parts) := by
  cases parts with
  | nil =>
    rintro last ⟨⟩
    exact alone rfl
  | cons next parts => simpa [Closes] using closes

/-- No part of a group in single quotes begins with the quote. -/
theorem SinglePart.head?_chars_append (part : SinglePart) (rest : List Char) :
    (part.chars ++ rest).head? ≠ some '\'' := by
  cases part with
  | plain c notQuote => simpa [chars] using notQuote
  | quote => simp [chars]

/-- Parts in single quotes are read one by one, unless a quote that follows them belongs to
their last backslash. -/
theorem scan_single_parts {parts : List SinglePart} {rest : List Char}
    (fits : rest.head? = some '\'' → Closes parts) (token : Bytes) :
    scan .single (some token) (parts.flatMap SinglePart.chars ++ rest)
      = scan .single (some (token ++ parts.flatMap SinglePart.bytes)) rest := by
  induction parts generalizing token with
  | nil => simp
  | cons part parts ih =>
    have others := ih fun quote => (fits quote).of_cons
    rw [List.flatMap_cons, List.append_assoc, List.flatMap_cons, ← List.append_assoc token]
    cases part with
    | plain c notQuote =>
      have alone : c = '\\' → (parts.flatMap SinglePart.chars ++ rest).head? ≠ some '\'' := by
        rintro rfl
        cases parts with
        | nil =>
          intro quote
          exact fits quote (.plain '\\' notQuote) rfl rfl
        | cons next parts =>
          rw [List.flatMap_cons, List.append_assoc]
          exact next.head?_chars_append _
      exact (scan_single_char notQuote alone (some token)).trans (others _)
    | quote => exact others _

/-- A segment adds its bytes to the token under way, or begins one. -/
theorem scan_segment (segment : Segment) (token : Option Bytes) (rest : List Char) :
    scan .bare token (segment.chars ++ rest)
      = scan .bare (extend token segment.bytes) rest := by
  cases segment with
  | bare c isBare => exact scan_bare_char isBare token rest
  | double parts =>
    rw [Segment.chars, List.cons_append, List.append_assoc, scan_bare_quote, extend,
      List.append_nil, scan_double_parts]
    rfl
  | single parts closes =>
    rw [Segment.chars, List.cons_append, List.append_assoc, scan_bare_single, extend,
      List.append_nil, scan_single_parts fun _ => closes]
    rfl

/-- Behind these characters, some tokens have been scanned and one may be under way. -/
def Reaches (cs : List Char) (tokens : List Bytes) (token : Option Bytes) : Prop :=
  ∀ rest, scan .bare none (cs ++ rest) = (scan .bare token rest).map (tokens ++ ·)

namespace Reaches

variable {cs : List Char} {tokens : List Bytes} {token : Option Bytes}

theorem nil : Reaches [] [] none :=
  fun rest => (map_close_none (scan .bare none rest)).symm

theorem segment (reaches : Reaches cs tokens token) (segment : Segment) :
    Reaches (cs ++ segment.chars) tokens (extend token segment.bytes) := by
  intro rest
  rw [List.append_assoc, reaches, scan_segment]

theorem segments {token : Bytes} (reaches : Reaches cs tokens (some token))
    (segments : List Segment) :
    Reaches (cs ++ segments.flatMap Segment.chars) tokens
      (some (token ++ segments.flatMap Segment.bytes)) := by
  induction segments generalizing cs token with
  | nil => simpa using reaches
  | cons segment segments ih =>
    rw [List.flatMap_cons, List.flatMap_cons, ← List.append_assoc, ← List.append_assoc]
    exact ih (reaches.segment segment)

theorem fresh (reaches : Reaches cs tokens none) (token : Token) :
    Reaches (cs ++ token.chars) tokens (some token.bytes) := by
  rcases token with ⟨segments, nonempty⟩
  cases segments with
  | nil => exact absurd rfl nonempty
  | cons segment segments =>
    rw [Token.chars, Token.bytes, List.flatMap_cons, List.flatMap_cons, ← List.append_assoc]
    exact (reaches.segment segment).segments segments

theorem blank (reaches : Reaches cs tokens token) {c : Char} (blank : Text.isBlank c = true) :
    Reaches (cs ++ [c]) (tokens ++ token.toList) none := by
  intro rest
  rw [List.append_assoc, reaches, List.singleton_append, scan_bare_blank blank]
  exact map_append_map _ tokens token.toList

theorem blanks (reaches : Reaches cs tokens none) (blanks : Blanks) :
    Reaches (cs ++ blanks.chars) tokens none := by
  intro rest
  rw [List.append_assoc, reaches, scan_bare_blanks blanks.blank]

theorem gap (reaches : Reaches cs tokens token) (gap : Gap) :
    Reaches (cs ++ gap.chars) (tokens ++ token.toList) none := by
  rcases gap with ⟨⟨blanks, blank⟩, nonempty⟩
  cases blanks with
  | nil => exact absurd rfl nonempty
  | cons c blanks =>
    obtain ⟨first, others⟩ := List.forall_mem_cons.1 blank
    have behind := (reaches.blank first).blanks ⟨blanks, others⟩
    rwa [List.append_assoc] at behind

theorem gapped (reaches : Reaches cs tokens none) (pairs : List (Token × Gap)) :
    Reaches (cs ++ pairs.flatMap Line.gapped)
      (tokens ++ pairs.map fun pair => pair.1.bytes) none := by
  induction pairs generalizing cs tokens with
  | nil => simpa using reaches
  | cons pair pairs ih =>
    have behind := ih ((reaches.fresh pair.1).gap pair.2)
    simpa [Line.gapped] using behind

/-- A token under way is finished where the characters end or a blank follows. -/
theorem spells (reaches : Reaches cs tokens token) : Spells cs (tokens ++ token.toList) := by
  intro rest ends
  rw [reaches]
  cases token with
  | none => rw [Option.toList_none, List.append_nil]
  | some token => rw [scan_bare_endsToken ends, map_append_map, Option.toList_some]

end Reaches

/-- Scanning passes a line that is taken apart, and then has its tokens; the last may still
be under way. -/
theorem Line.exists_reaches (line : Line) :
    ∃ tokens token, Reaches line.chars tokens token ∧ line.tokens = tokens ++ token.toList := by
  cases line with
  | blank blanks => exact ⟨[], none, Reaches.nil.blanks blanks, rfl⟩
  | filled before others last after =>
    have reached := ((Reaches.nil.blanks before).gapped others).fresh last
    rw [List.nil_append, List.nil_append, List.append_assoc] at reached
    by_cases ended : after.chars = []
    · refine ⟨others.map fun pair => pair.1.bytes, some last.bytes, ?_, rfl⟩
      rwa [chars, ended, List.append_nil]
    · refine ⟨_, none, ?_, (List.append_nil _).symm⟩
      have passed := reached.gap ⟨after, ended⟩
      rwa [List.append_assoc, List.append_assoc] at passed

theorem Line.spells (line : Line) : Spells line.chars line.tokens := by
  obtain ⟨tokens, token, reaches, whole⟩ := line.exists_reaches
  rw [whole]
  exact reaches.spells

/-- A line that is taken apart is scanned into its tokens. -/
theorem Line.scan_chars (line : Line) : scan .bare none line.chars = .ok line.tokens :=
  line.spells.scan_eq_ok

/-! ## Groups that are not closed -/

/-- Reading in double quotes comes to an end without a quote that closes them. -/
inductive DoubleBreaks : List Char → Flaw → Prop where
  | line : DoubleBreaks [] .unbalancedQuote
  | backslash : DoubleBreaks ['\\'] .unbalancedQuote
  | hex (rest : List Char)
      (unspelled : ∀ high low behind, rest = high :: low :: behind →
        Text.hexNumeral? [high, low] = none) :
      DoubleBreaks ('\\' :: 'x' :: rest) .badHexEscape

/-- Characters begin with a quote that no other closes. -/
inductive OpenGroup : List Char → Flaw → Prop where
  | double (parts : List DoublePart) {left : List Char} {flaw : Flaw}
      (breaks : DoubleBreaks left flaw) :
      OpenGroup ('"' :: (parts.flatMap DoublePart.chars ++ left)) flaw
  | single (parts : List SinglePart) :
      OpenGroup ('\'' :: parts.flatMap SinglePart.chars) .unbalancedQuote

theorem DoubleBreaks.scan_eq_error {left : List Char} {flaw : Flaw}
    (breaks : DoubleBreaks left flaw) (token : Option Bytes) :
    scan .double token left = .error flaw := by
  cases breaks with
  | line => rfl
  | backslash => rfl
  | hex rest unspelled =>
    match rest with
    | [] => rfl
    | [_] => rfl
    | high :: low :: behind =>
      have unread : Text.bytePair? high low = none := unspelled high low behind rfl
      rw [scan_double_hex, unread]

theorem OpenGroup.scan_eq_error {left : List Char} {flaw : Flaw} (opened : OpenGroup left flaw)
    (token : Option Bytes) : scan .bare token left = .error flaw := by
  cases opened with
  | double parts breaks =>
    rw [scan_bare_quote, extend, scan_double_parts, breaks.scan_eq_error]
  | single parts =>
    have fits : ([] : List Char).head? = some '\'' → Closes parts := by simp
    rw [scan_bare_single, extend, ← List.append_nil (parts.flatMap SinglePart.chars),
      scan_single_parts fits]
    rfl

/-! ## Taking lines apart -/

theorem DoublePart.chars_ne_nil (part : DoublePart) : part.chars ≠ [] := by
  cases part <;> exact List.cons_ne_nil _ _

/-- Where no part begins, the group is closed or reading breaks off. -/
theorem closed_or_doubleBreaks {left : List Char}
    (ends : ¬∃ (part : DoublePart) (behind : List Char), left = part.chars ++ behind) :
    (∃ behind, left = '"' :: behind) ∨ ∃ flaw, DoubleBreaks left flaw := by
  cases left with
  | nil => exact Or.inr ⟨_, .line⟩
  | cons c left =>
    by_cases quote : c = '"'
    · exact Or.inl ⟨left, quote ▸ rfl⟩
    by_cases backslash : c = '\\'
    · subst backslash
      cases left with
      | nil => exact Or.inr ⟨_, .backslash⟩
      | cons d left =>
        by_cases letter : d ∈ ['n', 'r', 't', 'x']
        · simp only [List.mem_cons, List.not_mem_nil, or_false] at letter
          rcases letter with rfl | rfl | rfl | rfl
          · exact absurd ⟨.control 'n' 0x0A (by decide), left, rfl⟩ ends
          · exact absurd ⟨.control 'r' 0x0D (by decide), left, rfl⟩ ends
          · exact absurd ⟨.control 't' 0x09 (by decide), left, rfl⟩ ends
          · refine Or.inr ⟨_, .hex left ?_⟩
            rintro high low behind rfl
            rw [Option.eq_none_iff_forall_ne_some]
            exact fun b spells => ends ⟨.hex high low b spells, behind, rfl⟩
        · exact absurd ⟨.escaped d letter, left, rfl⟩ ends
    · exact absurd ⟨.plain c quote backslash, left, rfl⟩ ends

/-- Characters in single quotes are parts up to the quote that closes them, or all of them
are parts. -/
theorem exists_single_parts (cs : List Char) :
    ∃ (parts : List SinglePart) (left : List Char),
      cs = parts.flatMap SinglePart.chars ++ left ∧
        (left = [] ∨ Closes parts ∧ ∃ behind, left = '\'' :: behind) := by
  cases cs with
  | nil => exact ⟨[], [], rfl, Or.inl rfl⟩
  | cons c cs =>
    by_cases quote : c = '\''
    · exact ⟨[], c :: cs, rfl, Or.inr ⟨nofun, cs, quote ▸ rfl⟩⟩
    by_cases escape : c = '\\' ∧ cs.head? = some '\''
    · obtain ⟨rfl, next⟩ := escape
      obtain ⟨rest, rfl⟩ := List.head?_eq_some_iff.1 next
      obtain ⟨parts, left, rfl, ends⟩ := exists_single_parts rest
      refine ⟨.quote :: parts, left, rfl, ends.imp_right fun closed => ⟨?_, closed.2⟩⟩
      exact closed.1.cons fun _ => by decide
    · obtain ⟨parts, left, rfl, ends⟩ := exists_single_parts cs
      refine ⟨.plain c quote :: parts, left, rfl, ends.imp_right fun closed => ⟨?_, closed.2⟩⟩
      obtain ⟨closes, behind, rfl⟩ := closed
      refine closes.cons ?_
      rintro rfl backslash
      exact escape ⟨List.head_eq_of_cons_eq backslash, rfl⟩
termination_by cs.length

/-- A blank or a segment: what a line is read by. -/
inductive Piece where
  | blank (c : Char) (isBlank : Text.isBlank c = true)
  | segment (segment : Segment)

/-- The characters of a piece. -/
def Piece.chars : Piece → List Char
  | blank c _ => [c]
  | segment s => s.chars

theorem Piece.chars_ne_nil (piece : Piece) : piece.chars ≠ [] := by
  cases piece with
  | blank => exact List.cons_ne_nil _ _
  | segment s => cases s <;> exact List.cons_ne_nil _ _

/-- Where no piece begins, the line ends or a group is not closed. -/
theorem eq_nil_or_openGroup {left : List Char}
    (ends : ¬∃ (piece : Piece) (behind : List Char), left = piece.chars ++ behind) :
    left = [] ∨ ∃ flaw, OpenGroup left flaw := by
  cases left with
  | nil => exact Or.inl rfl
  | cons c left =>
    right
    by_cases blank : Text.isBlank c = true
    · exact absurd ⟨.blank c blank, left, rfl⟩ ends
    by_cases double : c = '"'
    · subst double
      obtain ⟨parts, rest, rfl, stops⟩ := exists_row DoublePart.chars_ne_nil left
      rcases closed_or_doubleBreaks stops with ⟨behind, rfl⟩ | ⟨flaw, breaks⟩
      · refine absurd ⟨.segment (.double parts), behind, ?_⟩ ends
        simp [Piece.chars, Segment.chars]
      · exact ⟨flaw, .double parts breaks⟩
    by_cases single : c = '\''
    · subst single
      obtain ⟨parts, rest, rfl, rfl | ⟨closes, behind, rfl⟩⟩ := exists_single_parts left
      · rw [List.append_nil]
        exact ⟨_, .single parts⟩
      · refine absurd ⟨.segment (.single parts closes), behind, ?_⟩ ends
        simp [Piece.chars, Segment.chars]
    · have isBare : IsBare c := ⟨Bool.eq_false_iff.2 blank, double, single⟩
      exact absurd ⟨.segment (.bare c isBare), left, rfl⟩ ends

/-- A line goes on with a piece. -/
theorem Line.exists_append (line : Line) (piece : Piece) :
    ∃ longer : Line, longer.chars = line.chars ++ piece.chars := by
  cases piece with
  | blank c isBlank =>
    cases line with
    | blank blanks => exact ⟨.blank (blanks.push isBlank), rfl⟩
    | filled before others last after =>
      refine ⟨.filled before others last (after.push isBlank), ?_⟩
      simp [chars, Blanks.push, Piece.chars]
  | segment s =>
    cases line with
    | blank blanks =>
      refine ⟨.filled blanks [] (.single s) .none, ?_⟩
      simp [chars, Token.single, Token.chars, Blanks.none, Piece.chars]
    | filled before others last after =>
      by_cases touches : after.chars = []
      · refine ⟨.filled before others (last.push s) .none, ?_⟩
        simp [chars, Token.push, Token.chars, Blanks.none, Piece.chars, touches]
      · refine ⟨.filled before (others ++ [(last, ⟨after, touches⟩)]) (.single s) .none, ?_⟩
        simp [chars, gapped, Token.single, Token.chars, Blanks.none, Piece.chars]

/-- A row of pieces is a line. -/
theorem exists_line_of_pieces (pieces : List Piece) (line : Line) :
    ∃ longer : Line, longer.chars = line.chars ++ pieces.flatMap Piece.chars := by
  induction pieces generalizing line with
  | nil => exact ⟨line, (List.append_nil _).symm⟩
  | cons piece pieces ih =>
    obtain ⟨longer, extended⟩ := line.exists_append piece
    obtain ⟨whole, appended⟩ := ih longer
    refine ⟨whole, ?_⟩
    rw [appended, extended, List.append_assoc, List.flatMap_cons]

/-- Characters can be taken apart, or up to a group that is not closed. -/
theorem exists_line_append (cs : List Char) :
    ∃ (line : Line) (left : List Char), cs = line.chars ++ left ∧
      (left = [] ∨ ∃ flaw, OpenGroup left flaw) := by
  obtain ⟨pieces, left, rfl, ends⟩ := exists_row Piece.chars_ne_nil cs
  obtain ⟨line, read⟩ := exists_line_of_pieces pieces (.blank .none)
  exact ⟨line, left, by rw [read]; rfl, eq_nil_or_openGroup ends⟩

/-- Scanning finds a flaw just where a group is not closed behind a line. -/
theorem scan_eq_error_iff {cs : List Char} {flaw : Flaw} :
    scan .bare none cs = .error flaw ↔
      ∃ (line : Line) (left : List Char), cs = line.chars ++ left ∧ OpenGroup left flaw := by
  have reported {line : Line} {left : List Char} {found : Flaw} (opened : OpenGroup left found) :
      scan .bare none (line.chars ++ left) = .error found := by
    obtain ⟨tokens, token, reaches, -⟩ := line.exists_reaches
    rw [reaches, opened.scan_eq_error]
    rfl
  constructor
  · intro scanned
    obtain ⟨line, left, rfl, rfl | ⟨found, opened⟩⟩ := exists_line_append cs
    · rw [List.append_nil, line.scan_chars] at scanned
      cases scanned
    · obtain rfl := Except.error.inj ((reported opened).symm.trans scanned)
      exact ⟨line, left, rfl, opened⟩
  · rintro ⟨line, left, rfl, opened⟩
    exact reported opened

end KeyConsole.CommandLine
