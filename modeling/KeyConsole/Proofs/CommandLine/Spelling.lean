import KeyConsole.CommandLine
import KeyConsole.Value.Rendering

/-!
# Spelling tokens

Characters spell tokens when scanning them, in front of a blank or of the end
of the line, gives these tokens and goes on as on a new line.  Bare words,
quoted texts and hex escapes in quotes spell one token each, and what is
spelled by two texts is spelled by both with blanks between them.
-/

namespace KeyConsole.CommandLine

/-- A character that stands for itself outside quotes. -/
def IsBare (c : Char) : Prop :=
  Text.isBlank c = false ∧ c ≠ '"' ∧ c ≠ '\''

/-! ## Steps of the scanner -/

-- Where the characters decide, a step holds by definition; the equations of the scanner are
-- costly and only needed for a character that is not known.
theorem scan_bare_cons (token : Option Bytes) (c : Char) (cs : List Char) :
    scan .bare token (c :: cs)
      = if Text.isBlank c then (scan .bare none cs).map (close token)
        else if c = '"' then scan .double (extend token []) cs
        else if c = '\'' then scan .single (extend token []) cs
        else scan .bare (extend token (Text.encodeChar c)) cs :=
  rfl

theorem scan_bare_blank {c : Char} (blank : Text.isBlank c = true) (token : Option Bytes)
    (cs : List Char) : scan .bare token (c :: cs) = (scan .bare none cs).map (close token) := by
  rw [scan_bare_cons, if_pos blank]

theorem scan_bare_char {c : Char} (bare : IsBare c) (token : Option Bytes) (cs : List Char) :
    scan .bare token (c :: cs) = scan .bare (extend token (Text.encodeChar c)) cs := by
  rcases bare with ⟨notBlank, notDouble, notSingle⟩
  rw [scan_bare_cons, notBlank, if_neg Bool.false_ne_true, if_neg notDouble, if_neg notSingle]

theorem scan_bare_quote (token : Option Bytes) (cs : List Char) :
    scan .bare token ('"' :: cs) = scan .double (extend token []) cs := by
  rw [scan_bare_cons, if_neg (by decide), if_pos rfl]

theorem scan_bare_single (token : Option Bytes) (cs : List Char) :
    scan .bare token ('\'' :: cs) = scan .single (extend token []) cs := by
  rw [scan_bare_cons, if_neg (by decide), if_neg (by decide), if_pos rfl]

theorem scan_double_quote (token : Option Bytes) (cs : List Char) :
    scan .double token ('"' :: cs) = scan .bare token cs :=
  rfl

theorem scan_double_char {c : Char} (notQuote : c ≠ '"') (notBackslash : c ≠ '\\')
    (token : Option Bytes) (cs : List Char) :
    scan .double token (c :: cs) = scan .double (extend token (Text.encodeChar c)) cs := by
  simp [scan, notQuote, notBackslash]

/-- A character behind a backslash stands for itself, unless the two begin an escape. -/
theorem scan_double_escaped {c : Char} (other : c ∉ ['n', 'r', 't', 'x']) (token : Option Bytes)
    (cs : List Char) :
    scan .double token ('\\' :: c :: cs) = scan .double (extend token (Text.encodeChar c)) cs := by
  simp only [List.mem_cons, List.not_mem_nil, or_false, not_or] at other
  obtain ⟨notLineFeed, notReturn, notTab, notHex⟩ := other
  simp [scan, notLineFeed, notReturn, notTab, notHex]

theorem scan_double_hex (token : Option Bytes) (high low : Char) (cs : List Char) :
    scan .double token ('\\' :: 'x' :: high :: low :: cs)
      = match Text.bytePair? high low with
        | some b => scan .double (extend token [b]) cs
        | none => .error .badHexEscape :=
  rfl

theorem scan_double_hexByte (b : UInt8) (token : Option Bytes) (cs : List Char) :
    scan .double token (Text.hexByte b ++ cs) = scan .double (extend token [b]) cs := by
  simp only [Text.hexByte, List.cons_append, List.nil_append, scan_double_hex,
    Text.bytePair?_hexDigit]

/-- A character that is written inside double quotes is read back. -/
theorem scan_double_quotedChar (c : Char) (token : Option Bytes) (cs : List Char) :
    scan .double token (Value.quotedChar c ++ cs)
      = scan .double (extend token (Text.encodeChar c)) cs := by
  unfold Value.quotedChar
  split
  · next quote =>
    subst quote
    exact scan_double_escaped (by decide) token cs
  split
  · next backslash =>
    subst backslash
    exact scan_double_escaped (by decide) token cs
  split
  · next lineFeed => exact lineFeed ▸ rfl
  split
  · next carriageReturn => exact carriageReturn ▸ rfl
  split
  · next tab => exact tab ▸ rfl
  · next notQuote notBackslash _ _ _ => exact scan_double_char notQuote notBackslash token cs

/-- A character in single quotes stands for itself, and so does a backslash in front of
anything but a quote. -/
theorem scan_single_char {c : Char} (notQuote : c ≠ '\'') {cs : List Char}
    (alone : c = '\\' → cs.head? ≠ some '\'') (token : Option Bytes) :
    scan .single token (c :: cs) = scan .single (extend token (Text.encodeChar c)) cs := by
  by_cases backslash : c = '\\'
  · subst backslash
    cases cs with
    | nil => rfl
    | cons d cs =>
      have notEscape : d ≠ '\'' := by simpa using alone rfl
      simp [scan, notEscape]
  · simp [scan, backslash, notQuote]

/-- A line has tokens just when its characters are scanned into them. -/
theorem tokens_eq_ok_iff {line : String} {found : List Bytes} :
    tokens line = .ok found ↔ scan .bare none line.toList = .ok found := by
  unfold tokens
  cases scan .bare none line.toList with
  | ok others => constructor <;> exact fun same => congrArg Except.ok (Except.ok.inj same)
  | error flaw => constructor <;> exact nofun

/-! ## Runs of the scanner inside one token -/

@[simp]
theorem extend_some (token bytes : Bytes) : extend (some token) bytes = some (token ++ bytes) :=
  rfl

theorem scan_bare_chars {cs : List Char} (bare : ∀ c ∈ cs, IsBare c) (token : Bytes)
    (rest : List Char) :
    scan .bare (some token) (cs ++ rest)
      = scan .bare (some (token ++ cs.flatMap Text.encodeChar)) rest := by
  induction cs generalizing token with
  | nil => simp
  | cons c cs ih =>
    obtain ⟨bareHead, bareTail⟩ := List.forall_mem_cons.1 bare
    rw [List.cons_append, scan_bare_char bareHead, extend_some, ih bareTail, List.flatMap_cons,
      List.append_assoc]

theorem scan_double_quotedChars (cs : List Char) (token : Bytes) (rest : List Char) :
    scan .double (some token) (cs.flatMap Value.quotedChar ++ '"' :: rest)
      = scan .bare (some (token ++ cs.flatMap Text.encodeChar)) rest := by
  induction cs generalizing token with
  | nil => simpa using scan_double_quote (some token) rest
  | cons c cs ih =>
    rw [List.flatMap_cons, List.append_assoc, scan_double_quotedChar, extend_some, ih,
      List.flatMap_cons, List.append_assoc]

theorem scan_double_hexBytes (bytes token : Bytes) (rest : List Char) :
    scan .double (some token) (bytes.flatMap Text.hexByte ++ '"' :: rest)
      = scan .bare (some (token ++ bytes)) rest := by
  induction bytes generalizing token with
  | nil => simpa using scan_double_quote (some token) rest
  | cons b bytes ih =>
    rw [List.flatMap_cons, List.append_assoc, scan_double_hexByte, extend_some, ih,
      List.append_assoc, List.singleton_append]

/-! ## Spelled tokens -/

/-- What can follow a token: a blank, or nothing. -/
def EndsToken : List Char → Prop
  | [] => True
  | c :: _ => Text.isBlank c = true

/-- Scanning the characters in front of the end of a token gives the tokens
and goes on behind them. -/
def Spells (cs : List Char) (tokens : List Bytes) : Prop :=
  ∀ rest, EndsToken rest →
    scan .bare none (cs ++ rest) = (scan .bare none rest).map (tokens ++ ·)

theorem map_close_none (scanned : Except Flaw (List Bytes)) :
    scanned.map (close none) = scanned := by
  cases scanned <;> rfl

/-- Tokens are put in front one part behind the other, or all at once. -/
theorem map_append_map (scanned : Except Flaw (List Bytes)) (tokens others : List Bytes) :
    (scanned.map (others ++ ·)).map (tokens ++ ·) = scanned.map (tokens ++ others ++ ·) := by
  cases scanned with
  | error flaw => rfl
  | ok found => exact congrArg Except.ok (List.append_assoc tokens others found).symm

theorem scan_bare_endsToken {rest : List Char} (ends : EndsToken rest) (token : Bytes) :
    scan .bare (some token) rest = (scan .bare none rest).map ([token] ++ ·) := by
  cases rest with
  | nil => rfl
  | cons c cs =>
    rw [scan_bare_blank ends, scan_bare_blank ends, map_close_none]
    rfl

theorem scan_bare_blanks {blanks : List Char} (blank : ∀ c ∈ blanks, Text.isBlank c = true)
    (rest : List Char) : scan .bare none (blanks ++ rest) = scan .bare none rest := by
  induction blanks with
  | nil => rfl
  | cons c blanks ih =>
    obtain ⟨blankHead, blankTail⟩ := List.forall_mem_cons.1 blank
    rw [List.cons_append, scan_bare_blank blankHead, map_close_none, ih blankTail]

theorem endsToken_blanks_append {blanks : List Char}
    (blank : ∀ c ∈ blanks, Text.isBlank c = true) (nonempty : blanks ≠ []) (rest : List Char) :
    EndsToken (blanks ++ rest) := by
  cases blanks with
  | nil => exact absurd rfl nonempty
  | cons c blanks => exact blank c List.mem_cons_self

theorem Spells.scan_eq_ok {cs : List Char} {tokens : List Bytes} (spells : Spells cs tokens) :
    scan .bare none cs = .ok tokens := by
  have whole := spells [] trivial
  rw [List.append_nil] at whole
  rw [whole]
  exact congrArg Except.ok (List.append_nil tokens)

theorem spells_nil : Spells [] [] :=
  fun rest _ => (map_close_none (scan .bare none rest)).symm

/-- Behind blanks anything may follow, also what is no line. -/
theorem Spells.scan_append {first blanks : List Char} {tokens : List Bytes}
    (spells : Spells first tokens) (blank : ∀ c ∈ blanks, Text.isBlank c = true)
    (nonempty : blanks ≠ []) (rest : List Char) :
    scan .bare none (first ++ blanks ++ rest) = (scan .bare none rest).map (tokens ++ ·) := by
  rw [List.append_assoc, spells _ (endsToken_blanks_append blank nonempty rest),
    scan_bare_blanks blank]

/-- Tokens with blanks between them. -/
theorem Spells.append {first second blanks : List Char} {tokens others : List Bytes}
    (spells : Spells first tokens) (blank : ∀ c ∈ blanks, Text.isBlank c = true)
    (nonempty : blanks ≠ []) (spellsOthers : Spells second others) :
    Spells (first ++ blanks ++ second) (tokens ++ others) := by
  intro rest ends
  rw [List.append_assoc (first ++ blanks), spells.scan_append blank nonempty,
    spellsOthers rest ends, map_append_map]

/-- A non-empty word of bare characters is one token. -/
theorem spells_bare {cs : List Char} (nonempty : cs ≠ []) (bare : ∀ c ∈ cs, IsBare c) :
    Spells cs [cs.flatMap Text.encodeChar] := by
  intro rest ends
  cases cs with
  | nil => exact absurd rfl nonempty
  | cons c cs =>
    obtain ⟨bareHead, bareTail⟩ := List.forall_mem_cons.1 bare
    rw [List.cons_append, scan_bare_char bareHead, extend, scan_bare_chars bareTail,
      scan_bare_endsToken ends]
    rfl

/-- A quoted text is one token, also when it is empty. -/
theorem spells_quote (text : String) : Spells (Value.quote text).toList [Text.encode text] := by
  intro rest ends
  have spelled : (Value.quote text).toList ++ rest
      = '"' :: (text.toList.flatMap Value.quotedChar ++ '"' :: rest) := by
    simp [Value.quote]
  have encoded : Text.encode text = text.toList.flatMap Text.encodeChar := by
    rw [← Text.encode_ofList, String.ofList_toList]
  rw [spelled, scan_bare_quote, extend, scan_double_quotedChars, scan_bare_endsToken ends, encoded]
  rfl

/-- Bytes in hex escapes are one token, also when there are none. -/
theorem spells_hexEscape (bytes : Bytes) :
    Spells ("\"" ++ Text.hexEscape bytes ++ "\"").toList [bytes] := by
  intro rest ends
  have spelled : ("\"" ++ Text.hexEscape bytes ++ "\"").toList ++ rest
      = '"' :: (bytes.flatMap Text.hexByte ++ '"' :: rest) := by
    simp [Text.hexEscape]
  rw [spelled, scan_bare_quote, extend, scan_double_hexBytes, scan_bare_endsToken ends]
  rfl

end KeyConsole.CommandLine
