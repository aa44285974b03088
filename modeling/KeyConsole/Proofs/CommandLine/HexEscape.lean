import KeyConsole.Proofs.CommandLine.Grammar
import KeyConsole.Proofs.Text.HexEscape

/-!
# Hex escapes in texts and in command lines

A text of escapes and a group in double quotes have one notion of what two characters spell:
two digits of either case, or a plus sign and a digit.  In a text every escape has to be one
of these.  In a group, wherever an escape stands there, it is one of these or the line is
refused, however it goes on.
-/

namespace KeyConsole.CommandLine

/-- Characters that end inside double quotes: a line, the quote that opens a group, and parts
of the group. -/
structure Opened where
  line : Line
  parts : List DoublePart

namespace Opened

/-- The characters up to the place inside double quotes. -/
def chars (opened : Opened) : List Char :=
  opened.line.chars ++ '"' :: opened.parts.flatMap DoublePart.chars

/-- Scanning comes to the place inside double quotes with a token under way, which it goes on
with. -/
theorem exists_reaches (opened : Opened) : ∃ (before : List Bytes) (token : Bytes), ∀ rest,
    scan .bare none (opened.chars ++ rest)
      = (scan .double (some token) rest).map (before ++ ·) := by
  obtain ⟨before, token, reaches, -⟩ := opened.line.exists_reaches
  refine ⟨before, token.getD [] ++ opened.parts.flatMap DoublePart.bytes, fun rest => ?_⟩
  rw [chars, List.append_assoc, reaches, List.cons_append, scan_bare_quote, extend,
    List.append_nil, scan_double_parts]

end Opened

/-- Two characters that spell a byte, and the rest of the group behind them, add their bytes
to the token. -/
theorem scan_double_spelled {high low : Char} {b : UInt8} (spells : Text.Spells high low b)
    (more : List DoublePart) (token : Bytes) :
    scan .double (some token)
        ('\\' :: 'x' :: high :: low :: (more.flatMap DoublePart.chars ++ ['"']))
      = .ok [token ++ b :: more.flatMap DoublePart.bytes] := by
  rw [scan_double_hex, Text.bytePair?_eq_some_iff.2 spells]
  exact (scan_double_parts more (token ++ [b]) ['"']).trans (by simp [scan, close])

/-- Where no two characters that spell a byte follow, an escape is refused. -/
theorem scan_double_unspelled {rest : List Char}
    (unspelled : ∀ high low behind b, rest = high :: low :: behind → ¬Text.Spells high low b)
    (token : Option Bytes) : scan .double token ('\\' :: 'x' :: rest) = .error .badHexEscape := by
  refine DoubleBreaks.scan_eq_error (.hex rest ?_) token
  intro high low behind split
  exact Option.eq_none_iff_forall_ne_some.2 fun b read =>
    unspelled high low behind b split (Text.bytePair?_eq_some_iff.1 read)

/-- An escape in a group that is closed adds the byte that its two characters spell.  If they
spell none, the line has no tokens. -/
theorem Opened.exists_tokens (opened : Opened) : ∃ (before : List Bytes) (token : Bytes),
    tokens (String.ofList (opened.chars ++ ['"'])) = .ok (before ++ [token]) ∧
    ∀ (high low : Char) (more : List DoublePart) (found : List Bytes),
      tokens (String.ofList (opened.chars ++
          '\\' :: 'x' :: high :: low :: (more.flatMap DoublePart.chars ++ ['"']))) = .ok found ↔
        ∃ b, Text.Spells high low b ∧
          found = before ++ [token ++ b :: more.flatMap DoublePart.bytes] := by
  obtain ⟨before, token, reaches⟩ := opened.exists_reaches
  refine ⟨before, token, ?_, fun high low more found => ?_⟩
  · rw [tokens, String.toList_ofList, reaches]
    rfl
  rw [tokens, String.toList_ofList, reaches]
  constructor
  · intro read
    by_cases spelled : ∃ b, Text.Spells high low b
    · obtain ⟨b, spells⟩ := spelled
      rw [scan_double_spelled spells] at read
      exact ⟨b, spells, (Except.ok.inj read).symm⟩
    · rw [scan_double_unspelled] at read
      · cases read
      · rintro _ _ _ b ⟨⟩ spells
        exact spelled ⟨b, spells⟩
  · rintro ⟨b, spells, rfl⟩
    rw [scan_double_spelled spells]
    rfl

theorem Opened.tokens_unspelled (opened : Opened) {rest : List Char}
    (unspelled : ∀ high low behind b, rest = high :: low :: behind → ¬Text.Spells high low b) :
    tokens (String.ofList (opened.chars ++ '\\' :: 'x' :: rest))
      = .error (.invalidArgument "invalid \\x escape in command line") := by
  obtain ⟨before, token, reaches⟩ := opened.exists_reaches
  rw [tokens, String.toList_ofList, reaches, scan_double_unspelled unspelled]
  rfl

/-- A text is read as bytes just when it is escapes for these bytes.  Escapes of two digits
each are what is written for the bytes, with the digits in either case, and they alone are
read unless the text is read although a plus sign stands in it.  A group in double quotes
takes the same pairs of characters: with any other pair behind `\x`, or with fewer than two
characters, the line is an invalid argument, whatever follows. -/
theorem hexEscape_read_iff_spells (text : String) (opened : Opened) :
    (∀ bytes, Text.hexUnescape? text = some bytes ↔
      Text.Escapes Text.Spells text.toList bytes) ∧
    (∀ bytes, Text.Escapes Text.IsHexPair text.toList bytes ↔
      Text.sameLetters text (Text.hexEscape bytes) = true ∧ 'X' ∉ text.toList) ∧
    ((∀ bytes, Text.hexUnescape? text = some bytes ↔
        Text.Escapes Text.IsHexPair text.toList bytes) ↔
      ('+' ∈ text.toList → Text.hexUnescape? text = none)) ∧
    (∃ (before : List Bytes) (token : Bytes),
      tokens (String.ofList (opened.chars ++ ['"'])) = .ok (before ++ [token]) ∧
      ∀ (high low : Char) (more : List DoublePart) (found : List Bytes),
        tokens (String.ofList (opened.chars ++
            '\\' :: 'x' :: high :: low :: (more.flatMap DoublePart.chars ++ ['"'])))
          = .ok found ↔
          ∃ b, Text.Spells high low b ∧
            found = before ++ [token ++ b :: more.flatMap DoublePart.bytes]) ∧
    ∀ rest : List Char,
      (∀ high low behind b, rest = high :: low :: behind → ¬Text.Spells high low b) →
      tokens (String.ofList (opened.chars ++ '\\' :: 'x' :: rest))
        = .error (.invalidArgument "invalid \\x escape in command line") := by
  refine ⟨fun _ => Text.hexUnescape?_eq_some_iff,
    fun _ => Text.escapes_isHexPair_iff_sameLetters, ?_, opened.exists_tokens,
    fun _ => opened.tokens_unspelled⟩
  have digits (bytes : Bytes) : Text.Escapes Text.IsHexPair text.toList bytes ↔
      Text.hexUnescape? text = some bytes ∧ '+' ∉ text.toList := by
    rw [Text.hexUnescape?_eq_some_iff, Text.escapes_isHexPair_iff]
  constructor
  · intro strict plus
    exact Option.eq_none_iff_forall_ne_some.2 fun bytes read =>
      ((digits bytes).1 ((strict bytes).1 read)).2 plus
  · intro refused bytes
    rw [digits]
    refine ⟨fun read => ⟨read, fun plus => ?_⟩, And.left⟩
    rw [refused plus] at read
    cases read

/-- Digits of both cases in a text, and a line that ends behind one digit of an escape, in a
group that touches a bare word. -/
theorem hexEscape_read_iff_spells_short :
    Text.Escapes Text.IsHexPair "\\x4A\\x6b".toList [0x4A, 0x6B] ∧
    tokens "a b\"c\\x4" = .error (.invalidArgument "invalid \\x escape in command line") := by
  let gap : Gap := ⟨@Blanks.push .none ' ' rfl, List.cons_ne_nil _ _⟩
  let opened : Opened := {
    line := .filled .none [(.single (.bare 'a' ⟨by decide, by decide, by decide⟩), gap)]
      (.single (.bare 'b' ⟨by decide, by decide, by decide⟩)) .none
    parts := [.plain 'c' (by decide) (by decide)] }
  obtain ⟨-, -, strict, -, unspelled⟩ := hexEscape_read_iff_spells "\\x4A\\x6b" opened
  have unsigned : '+' ∉ "\\x4A\\x6b".toList := by decide
  exact ⟨(strict.2 (absurd · unsigned) [0x4A, 0x6B]).1 (by decide), unspelled ['4'] nofun⟩

/-- A plus sign and a digit are read, though they are no hexadecimal digits and are not
written for any byte. -/
theorem hexEscape_read_plusSign :
    Text.hexUnescape? "\\x+F" = some [0x0F] ∧
    Text.sameLetters "\\x+F" (Text.hexEscape [0x0F]) = false ∧
    (¬∃ bytes, Text.Escapes Text.IsHexPair "\\x+F".toList bytes) ∧
    tokens "\"\\x+F\"" = .ok [[0x0F]] := by
  refine ⟨by decide, by decide, ?_, rfl⟩
  rintro ⟨bytes, escapes⟩
  exact (Text.escapes_isHexPair_iff.1 escapes).2 (by decide)

end KeyConsole.CommandLine
