import KeyConsole.Proofs.CommandLine.Derivation

/-!
# Lines joined by blanks

A line that has tokens ends outside quotes: it spells its tokens, whatever stands behind a
blank that follows.  So blanks keep such a line apart from the next one.  The two have the
tokens of the one and then those of the other, and where the next line has a flaw the two
have it as well.
-/

namespace KeyConsole.CommandLine

/-- Characters that are scanned to their end spell the tokens that are found, so that nothing
in them waits for what follows. -/
theorem spells_iff_scan_eq_ok {cs : List Char} {found : List Bytes} :
    Spells cs found ↔ scan .bare none cs = .ok found := by
  refine ⟨Spells.scan_eq_ok, fun scanned => ?_⟩
  obtain ⟨line, left, rfl, rfl | ⟨flaw, opened⟩⟩ := exists_line_append cs
  · rw [List.append_nil] at scanned ⊢
    obtain rfl := Except.ok.inj (line.scan_chars.symm.trans scanned)
    exact line.spells
  · rw [scan_eq_error_iff.2 ⟨line, left, rfl, opened⟩] at scanned
    cases scanned

theorem isInvalidArgument_of_tokens {line : String} {error : Error}
    (failed : tokens line = .error error) : ∃ message, error = .invalidArgument message := by
  rcases line_or_openGroup line with ⟨line, apart⟩ | ⟨_, _, flaw, -, -, reported⟩
  · rw [tokens_of_chars apart] at failed
    cases failed
  · obtain rfl := Except.error.inj (reported.symm.trans failed)
    exact flaw.isInvalidArgument

/-- A line that has tokens puts them in front of those of the next line, which is tokenized as
if it stood alone. -/
theorem tokens_append {line blanks : String} {found : List Bytes} (read : tokens line = .ok found)
    (nonempty : blanks ≠ "") (blank : Text.isBlankText blanks = true) (next : String) :
    tokens (line ++ blanks ++ next) = (tokens next).map (found ++ ·) := by
  have spells := spells_iff_scan_eq_ok.2 (tokens_eq_ok_iff.1 read)
  have gap : blanks.toList ≠ [] := fun empty => nonempty (String.toList_eq_nil_iff.1 empty)
  rw [tokens, String.toList_append, String.toList_append,
    spells.scan_append (List.all_eq_true.1 blank) gap, tokens]
  cases scan .bare none next.toList <;> rfl

/-- Tokenizing distributes over lines that are joined by blanks: behind a line that has tokens
and one blank or more, the next line adds its own tokens, or is the same invalid argument that
it is alone. -/
theorem tokens_joined_by_blanks {line blanks : String} {found : List Bytes}
    (read : tokens line = .ok found) (nonempty : blanks ≠ "")
    (blank : Text.isBlankText blanks = true) (next : String) :
    (∀ others, tokens next = .ok others →
      tokens (line ++ blanks ++ next) = .ok (found ++ others)) ∧
    ∀ error, tokens next = .error error →
      (∃ message, error = .invalidArgument message) ∧
        tokens (line ++ blanks ++ next) = .error error := by
  have joined := tokens_append read nonempty blank next
  constructor
  · intro others readNext
    rw [joined, readNext]
    rfl
  · intro error failed
    refine ⟨isInvalidArgument_of_tokens failed, ?_⟩
    rw [joined, failed]
    rfl

/-- Groups of both kinds that end behind a quote or a backslash do not reach into the next
line, whether that is well formed or not. -/
theorem tokens_joined_by_blanks_quoted :
    tokens "k'\\'' \"a\\\\\"" = .ok [[0x6B, 0x27], [0x61, 0x5C]] ∧
    tokens ("k'\\'' \"a\\\\\"" ++ "\u3000\n" ++ "''b\"\\x00\" c")
      = .ok [[0x6B, 0x27], [0x61, 0x5C], [0x62, 0x00], [0x63]] ∧
    tokens ("k'\\'' \"a\\\\\"" ++ "\u3000\n" ++ "c \"\\xZZ\" 'd")
      = .error (.invalidArgument "invalid \\x escape in command line") := by
  have read : tokens "k'\\'' \"a\\\\\"" = .ok [[0x6B, 0x27], [0x61, 0x5C]] := rfl
  have nonempty : "\u3000\n" ≠ "" := by decide
  have blank : Text.isBlankText "\u3000\n" = true := by decide
  obtain ⟨adds, -⟩ := tokens_joined_by_blanks read nonempty blank "''b\"\\x00\" c"
  obtain ⟨-, fails⟩ := tokens_joined_by_blanks read nonempty blank "c \"\\xZZ\" 'd"
  exact ⟨read, adds _ rfl, (fails _ rfl).2⟩

/-- A line that ends inside a group has no tokens of its own, and a blank does not keep it
apart. -/
example :
    tokens "\"a" = .error (.invalidArgument "unbalanced quotes in command line") ∧
      tokens ("\"a" ++ " " ++ "b\"") = .ok [[0x61, 0x20, 0x62]] :=
  ⟨rfl, rfl⟩

end KeyConsole.CommandLine
