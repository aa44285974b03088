import Mathlib.Data.List.Forall2
import KeyConsole.Proofs.Text.Lines
import KeyConsole.Proofs.Value.Leaves

/-!
# Lines of written tokens

A token that is written for a command line holds no line feed and does not end in a
blank, however it is quoted.  So tokens with spaces between them stay on one line, which
loses nothing when the blanks around it are cut off, and a script of such lines is read
back line by line.
-/

namespace KeyConsole.CommandLine

/-! ## Lines of a script -/

/-- A line that is found in a script as it stands. -/
structure IsLine (line : String) : Prop where
  unbroken : ∀ c ∈ line.toList, c ≠ '\n'
  begins : ∃ c cs, line.toList = c :: cs ∧ Text.isBlank c = false ∧ c ≠ '#'
  ends : ∃ cs c, line.toList = cs ++ [c] ∧ Text.isBlank c = false

namespace IsLine

variable {line : String}

theorem visible_of_last (isLine : IsLine line) :
    ∀ c ∈ line.toList.getLast?, Text.isBlank c = false := by
  obtain ⟨cs, c, spelled, visible⟩ := isLine.ends
  simpa [spelled] using visible

theorem dropReturn_eq (isLine : IsLine line) : Text.dropReturn line.toList = line.toList :=
  Text.dropReturn_eq_self isLine.visible_of_last

theorem trim_eq (isLine : IsLine line) : Text.trim line = line := by
  obtain ⟨c, cs, spelled, visible, _⟩ := isLine.begins
  rw [Text.trim_eq_self_iff, Text.trimChars_eq_self_iff]
  exact ⟨by simpa [spelled] using visible, isLine.visible_of_last⟩

theorem isCommand_eq (isLine : IsLine line) : isCommand line = true := by
  obtain ⟨c, cs, spelled, _, notComment⟩ := isLine.begins
  have nonempty : line.isEmpty = false := by
    rw [← Bool.not_eq_true, String.isEmpty_iff]
    rintro rfl
    cases spelled
  simp [isCommand, nonempty, spelled, notComment]

end IsLine

theorem lines_join {lines : List String} (areLines : ∀ line ∈ lines, IsLine line) :
    Text.lines (Text.join "\n" lines) = lines := by
  induction lines with
  | nil => rfl
  | cons line lines ih =>
    obtain ⟨isLine, areLines⟩ := List.forall_mem_cons.1 areLines
    cases lines with
    | nil =>
      have nonempty : [] ++ line.toList ≠ [] := by
        obtain ⟨c, cs, spelled, _⟩ := isLine.begins
        simp [spelled]
      simp [Text.join, Text.lines, Text.linesFrom_last isLine.unbroken nonempty]
    | cons next lines =>
      have joined : Text.join "\n" (line :: next :: lines)
          = line ++ "\n" ++ Text.join "\n" (next :: lines) := by
        simp [Text.join]
      rw [joined, Text.lines_lineFeed isLine.unbroken, isLine.dropReturn_eq, String.ofList_toList,
        ih areLines]

/-- A script of such lines is read back line by line. -/
theorem commands_join {lines : List String} (areLines : ∀ line ∈ lines, IsLine line) :
    commands (Text.join "\n" lines) = lines := by
  have trimmed : lines.map Text.trim = lines :=
    (List.map_congr_left fun line mem => (areLines line mem).trim_eq).trans (List.map_id _)
  rw [commands, lines_join areLines, trimmed, List.filter_eq_self]
  exact fun line mem => (areLines line mem).isCommand_eq

/-! ## Written tokens -/

/-- A text writes a token: it spells it, holds no line feed and does not end in a
blank. -/
structure Writes (text : String) (token : Bytes) : Prop where
  spells : Spells text.toList [token]
  unbroken : ∀ c ∈ text.toList, c ≠ '\n'
  ends : ∃ cs c, text.toList = cs ++ [c] ∧ Text.isBlank c = false

theorem IsBare.ne_lineFeed {c : Char} (bare : IsBare c) : c ≠ '\n' := by
  rintro rfl
  exact absurd bare.1 (by decide)

/-- A word of bare characters writes its bytes. -/
theorem writes_word {text : String} (nonempty : text.toList ≠ [])
    (bare : ∀ c ∈ text.toList, IsBare c) : Writes text (Text.encode text) where
  spells := Value.spells_word nonempty bare
  unbroken c mem := (bare c mem).ne_lineFeed
  ends := ⟨_, _, (List.dropLast_append_getLast nonempty).symm,
    (bare _ (List.getLast_mem nonempty)).1⟩

theorem writes_natural (n : Nat) : Writes (Text.natural n) (Text.encode (Text.natural n)) := by
  have spelled : (Text.natural n).toList = Nat.toDigits 10 n := String.toList_ofList
  apply writes_word
  · rw [spelled]
    exact Nat.toDigits_ne_nil
  · rw [spelled]
    exact fun c mem =>
      Value.isBare_of_isDigit (Nat.isDigit_of_mem_toDigits (by decide) (by decide) mem)

theorem ne_lineFeed_of_mem_quotedChar {c d : Char} (mem : d ∈ Value.quotedChar c) :
    d ≠ '\n' := by
  have unbroken : ∀ d ∈ Value.quotedChar c, d ≠ '\n' := by
    unfold Value.quotedChar
    repeat' split
    all_goals simp_all
  exact unbroken d mem

theorem ne_lineFeed_of_mem_hexByte {b : UInt8} {c : Char} (mem : c ∈ Text.hexByte b) :
    c ≠ '\n' := by
  have digit : ∀ n : Fin 16, Text.hexDigit n ≠ '\n' := by decide
  have bounded := b.toNat_lt
  simp only [Text.hexByte, List.mem_cons, List.not_mem_nil, or_false] at mem
  rcases mem with rfl | rfl | rfl | rfl
  · decide
  · decide
  · exact digit ⟨b.toNat / 16, by omega⟩
  · exact digit ⟨b.toNat % 16, by omega⟩

/-- What stands between double quotes ends in one. -/
theorem writes_quoted {text : String} {token : Bytes} {inside : List Char}
    (spelled : text.toList = '"' :: (inside ++ ['"'])) (unbroken : ∀ c ∈ inside, c ≠ '\n')
    (spells : Spells text.toList [token]) : Writes text token where
  spells := spells
  unbroken c mem := by
    rw [spelled, List.mem_cons, List.mem_append, List.mem_singleton] at mem
    rcases mem with rfl | mem | rfl
    · decide
    · exact unbroken c mem
    · decide
  ends := ⟨'"' :: inside, '"', spelled, by decide⟩

theorem writes_tokenText (text : String) : Writes (Value.tokenText text) (Text.encode text) := by
  unfold Value.tokenText
  split
  · next bare =>
    obtain ⟨nonempty, bareChars⟩ := Value.bare_of_isBareToken bare
    exact writes_word nonempty bareChars
  · refine writes_quoted String.toList_ofList ?_ (spells_quote text)
    intro c mem
    obtain ⟨original, _, mem⟩ := List.mem_flatMap.1 mem
    exact ne_lineFeed_of_mem_quotedChar mem

theorem writes_hexEscape (bytes : Bytes) : Writes ("\"" ++ Text.hexEscape bytes ++ "\"") bytes := by
  refine @writes_quoted _ bytes (bytes.flatMap Text.hexByte) ?_ ?_ (spells_hexEscape bytes)
  · simp [Text.hexEscape]
  · intro c mem
    obtain ⟨b, _, mem⟩ := List.mem_flatMap.1 mem
    exact ne_lineFeed_of_mem_hexByte mem

/-- A value that stands for bytes is written as their token. -/
theorem writes_ofBytes (bytes : Bytes) :
    Writes (Value.render " " .command (Value.ofBytes bytes)) bytes := by
  unfold Value.ofBytes
  cases decoded : Text.decode? bytes with
  | some text => exact Text.encode_of_decode? decoded ▸ writes_tokenText text
  | none => exact writes_hexEscape bytes

/-! ## Lines of tokens -/

/-- Tokens with spaces between them are read back one by one, and stay on a line that
does not end in a blank. -/
theorem writes_join {texts : List String} {tokens : List Bytes}
    (written : List.Forall₂ Writes texts tokens) (nonempty : texts ≠ []) :
    Spells (Text.join " " texts).toList tokens ∧
      (∀ c ∈ (Text.join " " texts).toList, c ≠ '\n') ∧
        ∃ cs c, (Text.join " " texts).toList = cs ++ [c] ∧ Text.isBlank c = false := by
  induction written with
  | nil => exact absurd rfl nonempty
  | @cons text token texts tokens writes written ih =>
    cases written with
    | nil =>
      have alone : Text.join " " [text] = text := by simp [Text.join]
      rw [alone]
      exact ⟨writes.spells, writes.unbroken, writes.ends⟩
    | @cons next nextToken texts tokens writesNext written =>
      obtain ⟨spells, unbroken, cs, c, spelled, visible⟩ := ih (List.cons_ne_nil _ _)
      have joined : Text.join " " (text :: next :: texts)
          = text ++ " " ++ Text.join " " (next :: texts) := by
        simp [Text.join]
      rw [joined]
      refine ⟨Value.separates_space.spells_append writes.spells spells, ?_, ?_⟩
      · simp only [String.toList_append, List.forall_mem_append]
        exact ⟨⟨writes.unbroken, by simp⟩, unbroken⟩
      · refine ⟨text.toList ++ " ".toList ++ cs, c, ?_, visible⟩
        rw [String.toList_append, String.toList_append, spelled, List.append_assoc _ cs]

/-- Tokens behind a visible word that is no comment stand on a line of a script. -/
theorem isLine_join {word : String} {texts : List String} {tokens : List Bytes}
    (begins : ∃ c cs, word.toList = c :: cs ∧ Text.isBlank c = false ∧ c ≠ '#')
    (written : List.Forall₂ Writes (word :: texts) tokens) :
    IsLine (Text.join " " (word :: texts)) where
  unbroken := (writes_join written (List.cons_ne_nil _ _)).2.1
  begins := by
    obtain ⟨c, cs, spelled, visible, notComment⟩ := begins
    cases texts with
    | nil => exact ⟨c, cs, by simp [Text.join, spelled], visible, notComment⟩
    | cons next texts =>
      exact ⟨c, cs ++ (" " ++ Text.join " " (next :: texts)).toList, by simp [Text.join, spelled],
        visible, notComment⟩
  ends := (writes_join written (List.cons_ne_nil _ _)).2.2

theorem tokens_join {texts : List String} {tokens : List Bytes}
    (written : List.Forall₂ Writes texts tokens) (nonempty : texts ≠ []) :
    CommandLine.tokens (Text.join " " texts) = .ok tokens :=
  tokens_eq_ok_iff.2 (writes_join written nonempty).1.scan_eq_ok

end KeyConsole.CommandLine
