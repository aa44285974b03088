import KeyConsole.Proofs.Text.Ascii
import KeyConsole.Text.HexEscape

/-!
# Which texts are hex escapes

A text is read as bytes just when it is a row of escapes, each a backslash, `x` and two
characters that spell a byte.  Two digits of either case do so, and also a plus sign and
one digit.  A text is cut into its bytes for that, but no escape begins or ends inside a
character: all that is read are characters of ASCII.
-/

namespace KeyConsole.Text

/-! ## Digits and pairs -/

/-- The hexadecimal digit of a number, in either case. -/
def IsHexDigit (c : Char) (n : Nat) : Prop :=
  n < 16 ∧ (c = hexDigit n ∨ c = (hexDigit n).toUpper)

instance (c : Char) (n : Nat) : Decidable (IsHexDigit c n) :=
  inferInstanceAs (Decidable (_ ∧ _))

/-- Two digits spell a byte, the high one first. -/
def IsHexPair (high low : Char) (b : UInt8) : Prop :=
  IsHexDigit high (b.toNat / 16) ∧ IsHexDigit low (b.toNat % 16)

/-- A plus sign and a digit spell a byte below sixteen. -/
def IsSignedPair (high low : Char) (b : UInt8) : Prop :=
  high = '+' ∧ IsHexDigit low b.toNat

/-- Two characters spell a byte in an escape. -/
def Spells (high low : Char) (b : UInt8) : Prop :=
  IsHexPair high low b ∨ IsSignedPair high low b

theorem ascii_of_hexValue? {c : Char} {n : Nat} (read : hexValue? c = some n) :
    c.toNat < 0x80 := by
  unfold hexValue? at read
  split at read
  · next inRange => exact Nat.lt_of_le_of_lt inRange.2 (by decide)
  split at read
  · next inRange => exact Nat.lt_of_le_of_lt inRange.2 (by decide)
  split at read
  · next inRange => exact Nat.lt_of_le_of_lt inRange.2 (by decide)
  · cases read

theorem isHexDigit_of_mem_hexValue? :
    ∀ k < 0x80, ∀ n ∈ hexValue? (Char.ofNat k), IsHexDigit (Char.ofNat k) n := by
  decide

theorem hexValue?_hexDigit :
    ∀ n < 16, hexValue? (hexDigit n) = some n ∧ hexValue? (hexDigit n).toUpper = some n := by
  decide

theorem hexValue?_eq_some_iff {c : Char} {n : Nat} : hexValue? c = some n ↔ IsHexDigit c n := by
  constructor
  · intro read
    have known := isHexDigit_of_mem_hexValue? c.toNat (ascii_of_hexValue? read)
    rw [Char.ofNat_toNat] at known
    exact known n read
  · rintro ⟨small, rfl | rfl⟩
    · exact (hexValue?_hexDigit n small).1
    · exact (hexValue?_hexDigit n small).2

theorem dropPlus_of_ne {c : Char} (notPlus : c ≠ '+') (cs : List Char) :
    dropPlus (c :: cs) = c :: cs := by
  unfold dropPlus
  split
  · next spelled => exact absurd (List.cons.inj spelled).1 notPlus
  · rfl

/-- Numbers of at most two digits are bytes. -/
theorem bytePair?_eq_some_iff {high low : Char} {b : UInt8} :
    bytePair? high low = some b ↔ Spells high low b := by
  have fits := b.toNat_lt
  by_cases plus : high = '+'
  · subst plus
    have noDigit (n : Nat) : ¬IsHexDigit '+' n := by
      rw [← hexValue?_eq_some_iff]
      exact nofun
    have read : bytePair? '+' low = (hexValue? low).bind fun n =>
        if n < 0x100 then some (UInt8.ofNat n) else none := by
      cases value : hexValue? low <;> simp [bytePair?, hexNumeral?, dropPlus, hexDigits?, value]
    simp only [read, Option.bind_eq_some_iff, Spells, IsHexPair, noDigit, false_and, false_or,
      IsSignedPair, true_and, hexValue?_eq_some_iff, Option.ite_none_right_eq_some,
      Option.some.injEq]
    constructor
    · rintro ⟨n, digit, small, rfl⟩
      rwa [UInt8.toNat_ofNat_of_lt' small]
    · intro digit
      exact ⟨b.toNat, digit, fits, UInt8.ofNat_toNat⟩
  · have read : bytePair? high low = (hexValue? high).bind fun h => (hexValue? low).bind fun l =>
        if 16 * h + l < 0x100 then some (UInt8.ofNat (16 * h + l)) else none := by
      cases first : hexValue? high <;> cases second : hexValue? low <;>
        simp [bytePair?, hexNumeral?, dropPlus_of_ne plus, hexDigits?, first, second]
    simp only [read, Option.bind_eq_some_iff, Spells, IsHexPair, IsSignedPair, plus, false_and,
      or_false, hexValue?_eq_some_iff, Option.ite_none_right_eq_some, Option.some.injEq]
    constructor
    · rintro ⟨h, highDigit, l, lowDigit, small, rfl⟩
      have lowSmall := lowDigit.1
      rw [UInt8.toNat_ofNat_of_lt' small, Nat.mul_add_div (by decide), Nat.mul_add_mod,
        Nat.div_eq_of_lt lowSmall, Nat.mod_eq_of_lt lowSmall]
      exact ⟨highDigit, lowDigit⟩
    · rintro ⟨highDigit, lowDigit⟩
      refine ⟨b.toNat / 16, highDigit, b.toNat % 16, lowDigit, ?_⟩
      rw [Nat.div_add_mod]
      exact ⟨fits, UInt8.ofNat_toNat⟩

/-! ## Characters behind bytes -/

theorem encodeChar_ne_nil (c : Char) : encodeChar c ≠ [] := by
  rw [encodeChar, ← List.length_pos_iff, String.length_utf8EncodeChar]
  exact c.utf8Size_pos

/-- Where the bytes of a text begin with one of ASCII, the text begins with its character. -/
theorem exists_char_of_ascii {cs : List Char} {b : UInt8} {bytes : Bytes} (ascii : b < 0x80)
    (encoded : cs.flatMap encodeChar = b :: bytes) :
    ∃ rest, cs = Char.ofNat b.toNat :: rest ∧ rest.flatMap encodeChar = bytes := by
  cases cs with
  | nil => cases encoded
  | cons c rest =>
    rw [List.flatMap_cons] at encoded
    rcases Nat.lt_or_ge c.toNat 0x80 with ascii' | high
    · rw [encodeChar_of_ascii ascii', List.singleton_append] at encoded
      obtain ⟨rfl, rfl⟩ := List.cons.inj encoded
      refine ⟨rest, ?_, rfl⟩
      rw [UInt8.toNat_ofNat_of_lt' (Nat.lt_trans ascii' (by decide)), Char.ofNat_toNat]
    · obtain ⟨first, more, split⟩ := List.exists_cons_of_ne_nil (encodeChar_ne_nil c)
      rw [split, List.cons_append] at encoded
      obtain ⟨rfl, -⟩ := List.cons.inj encoded
      have isHigh : 0x80 ≤ first := high_of_mem_encodeChar high (split ▸ List.mem_cons_self)
      exact absurd ascii (UInt8.not_lt.2 isHigh)

theorem encodeChar_ofNat {b : UInt8} (ascii : b < 0x80) :
    encodeChar (Char.ofNat b.toNat) = [b] := by
  have every : ∀ n < 0x80, encodeChar (Char.ofNat n) = [UInt8.ofNat n] := by decide
  rw [every b.toNat (UInt8.lt_iff_toNat_lt.1 ascii), UInt8.ofNat_toNat]

theorem flatMap_encodeChar_eq_nil_iff {cs : List Char} : cs.flatMap encodeChar = [] ↔ cs = [] := by
  cases cs with
  | nil => simp
  | cons c cs => simp [encodeChar_ne_nil]

theorem ascii_of_mem_hexDigits {cs : List Char} {start n : Nat}
    (read : cs.foldlM (fun n c => (hexValue? c).map fun digit => 16 * n + digit) start = some n) :
    ∀ c ∈ cs, c.toNat < 0x80 := by
  induction cs generalizing start with
  | nil => simp
  | cons c cs ih =>
    rw [List.foldlM_cons] at read
    obtain ⟨value, first, others⟩ := Option.bind_eq_some_iff.1 read
    obtain ⟨digit, isDigit, -⟩ := Option.map_eq_some_iff.1 first
    exact List.forall_mem_cons.2 ⟨ascii_of_hexValue? isDigit, ih others⟩

/-- A numeral holds no characters but those of ASCII. -/
theorem ascii_of_hexNumeral? {cs : List Char} {b : UInt8} (read : hexNumeral? cs = some b) :
    ∀ c ∈ cs, c.toNat < 0x80 := by
  obtain ⟨n, digits, -⟩ := Option.bind_eq_some_iff.1 read
  unfold hexDigits? at digits
  split at digits
  · cases digits
  · have ascii := ascii_of_mem_hexDigits digits
    unfold dropPlus at ascii
    split at ascii
    · exact List.forall_mem_cons.2 ⟨by decide, ascii⟩
    · exact ascii

/-- The last two bytes of an escape spell a byte as the two characters of ASCII that they
are. -/
theorem escapedByte?_eq_some_iff {high low b : UInt8} :
    escapedByte? high low = some b ↔ high < 0x80 ∧ low < 0x80 ∧
      bytePair? (Char.ofNat high.toNat) (Char.ofNat low.toNat) = some b := by
  rw [escapedByte?, Option.bind_eq_some_iff]
  constructor
  · rintro ⟨digits, decoded, read⟩
    rw [decode?_eq_some_iff, encode_eq_flatMap] at decoded
    have ascii : ∀ byte ∈ [high, low], byte < 0x80 := by
      rw [← decoded]
      intro byte mem
      obtain ⟨c, isDigit, isByte⟩ := List.mem_flatMap.1 mem
      have small := ascii_of_hexNumeral? read c isDigit
      rw [encodeChar_of_ascii small, List.mem_singleton] at isByte
      rw [isByte, UInt8.lt_iff_toNat_lt, UInt8.toNat_ofNat_of_lt' (Nat.lt_trans small (by decide))]
      exact small
    obtain ⟨highAscii, ascii⟩ := List.forall_mem_cons.1 ascii
    obtain ⟨lowAscii, -⟩ := List.forall_mem_cons.1 ascii
    obtain ⟨behind, spelled, encoded⟩ := exists_char_of_ascii highAscii decoded
    obtain ⟨last, rfl, ended⟩ := exists_char_of_ascii lowAscii encoded
    obtain rfl := flatMap_encodeChar_eq_nil_iff.1 ended
    rw [spelled] at read
    exact ⟨highAscii, lowAscii, read⟩
  · rintro ⟨highAscii, lowAscii, read⟩
    have encoded : encode (String.ofList [Char.ofNat high.toNat, Char.ofNat low.toNat])
        = [high, low] := by
      rw [encode_ofList]
      simp [encodeChar_ofNat highAscii, encodeChar_ofNat lowAscii]
    refine ⟨_, decode?_eq_some_iff.2 encoded, ?_⟩
    rw [String.toList_ofList]
    exact read

theorem ascii_of_bytePair? {high low : Char} {b : UInt8} (read : bytePair? high low = some b) :
    high.toNat < 0x80 ∧ low.toNat < 0x80 := by
  simpa using ascii_of_hexNumeral? read

theorem escapedByte?_ofNat {high low : Char} {b : UInt8} (read : bytePair? high low = some b) :
    escapedByte? (UInt8.ofNat high.toNat) (UInt8.ofNat low.toNat) = some b := by
  obtain ⟨highAscii, lowAscii⟩ := ascii_of_bytePair? read
  have small {c : Char} (ascii : c.toNat < 0x80) : (UInt8.ofNat c.toNat).toNat = c.toNat :=
    UInt8.toNat_ofNat_of_lt' (Nat.lt_trans ascii (by decide))
  rw [escapedByte?_eq_some_iff, UInt8.lt_iff_toNat_lt, UInt8.lt_iff_toNat_lt, small highAscii,
    small lowAscii, Char.ofNat_toNat, Char.ofNat_toNat]
  exact ⟨highAscii, lowAscii, read⟩

/-! ## Rows of escapes -/

/-- Characters spell bytes in escapes: each byte has a backslash, `x` and two characters that
stand for it. -/
inductive Escapes (Pair : Char → Char → UInt8 → Prop) : List Char → Bytes → Prop where
  | nil : Escapes Pair [] []
  | cons {high low : Char} {b : UInt8} {cs : List Char} {bytes : Bytes}
      (pair : Pair high low b) (others : Escapes Pair cs bytes) :
      Escapes Pair ('\\' :: 'x' :: high :: low :: cs) (b :: bytes)

/-- Bytes are read where the characters of a text are escapes for them. -/
theorem unescapeBytes?_eq_some_iff {cs : List Char} {bytes : Bytes} :
    unescapeBytes? (cs.flatMap encodeChar) = some bytes ↔
      Escapes (fun high low b => bytePair? high low = some b) cs bytes := by
  constructor
  · intro read
    generalize encoded : cs.flatMap encodeChar = raw at read
    fun_induction unescapeBytes? raw generalizing cs bytes with
    | case1 =>
      obtain rfl := flatMap_encodeChar_eq_nil_iff.1 encoded
      cases read
      exact .nil
    | case2 backslash mark high low rest isEscape b bs others spelled ih =>
      obtain ⟨rfl, rfl⟩ := isEscape
      obtain ⟨highAscii, lowAscii, pair⟩ := escapedByte?_eq_some_iff.1 spelled
      obtain ⟨marked, rfl, fromMark⟩ := exists_char_of_ascii (by decide) encoded
      obtain ⟨paired, rfl, fromHigh⟩ := exists_char_of_ascii (by decide) fromMark
      obtain ⟨halved, rfl, fromLow⟩ := exists_char_of_ascii highAscii fromHigh
      obtain ⟨left, rfl, isRest⟩ := exists_char_of_ascii lowAscii fromLow
      obtain rfl := Option.some.inj read
      exact .cons pair (ih isRest others)
    | case3 => cases read
    | case4 => cases read
    | case5 => cases read
  · intro escapes
    induction escapes with
    | nil => rfl
    | @cons high low b cs bytes pair others ih =>
      obtain ⟨highAscii, lowAscii⟩ := ascii_of_bytePair? pair
      have encoded : ('\\' :: 'x' :: high :: low :: cs).flatMap encodeChar
          = 0x5C :: 0x78 :: UInt8.ofNat high.toNat :: UInt8.ofNat low.toNat
              :: cs.flatMap encodeChar := by
        simp only [List.flatMap_cons, encodeChar_of_ascii highAscii, encodeChar_of_ascii lowAscii]
        rfl
      rw [encoded, unescapeBytes?, if_pos ⟨rfl, rfl⟩, escapedByte?_ofNat pair, ih]

/-- What is read from a text are the bytes that its characters spell in escapes, by two
digits or by a plus sign and one digit. -/
theorem hexUnescape?_eq_some_iff {text : String} {bytes : Bytes} :
    hexUnescape? text = some bytes ↔ Escapes Spells text.toList bytes := by
  rw [hexUnescape?, encode_eq_flatMap, unescapeBytes?_eq_some_iff]
  simp only [bytePair?_eq_some_iff]

/-! ## Escapes of two digits -/

theorem not_isHexDigit {c : Char} (unread : hexValue? c = none) (n : Nat) : ¬IsHexDigit c n := by
  rw [← hexValue?_eq_some_iff, unread]
  exact nofun

/-- Escapes of two digits hold their digits, backslashes and marks only. -/
theorem Escapes.not_mem {cs : List Char} {bytes : Bytes} (escapes : Escapes IsHexPair cs bytes)
    {c : Char} (unread : hexValue? c = none) (other : c ≠ '\\' ∧ c ≠ 'x') : c ∉ cs := by
  have noDigit := not_isHexDigit unread
  induction escapes with
  | nil => exact List.not_mem_nil
  | cons pair others ih =>
    simp only [List.mem_cons, not_or]
    refine ⟨other.1, other.2, ?_, ?_, ih⟩
    · rintro rfl
      exact noDigit _ pair.1
    · rintro rfl
      exact noDigit _ pair.2

/-- The escapes of two digits are those that are read and hold no plus sign. -/
theorem escapes_isHexPair_iff {cs : List Char} {bytes : Bytes} :
    Escapes IsHexPair cs bytes ↔ Escapes Spells cs bytes ∧ '+' ∉ cs := by
  constructor
  · intro escapes
    refine ⟨?_, escapes.not_mem rfl (by decide)⟩
    induction escapes with
    | nil => exact .nil
    | cons pair others ih => exact .cons (Or.inl pair) ih
  · rintro ⟨escapes, unsigned⟩
    induction escapes with
    | nil => exact .nil
    | cons pair others ih =>
      simp only [List.mem_cons, not_or] at unsigned
      obtain ⟨-, -, notPlus, -, unsigned⟩ := unsigned
      rcases pair with digits | signed
      · exact .cons digits (ih unsigned)
      · exact absurd signed.1.symm notPlus

/-- A character is the lower-case form of itself, or the upper-case form of that. -/
theorem eq_toLower_or (c : Char) : c = c.toLower ∨ c = c.toLower.toUpper := by
  have every : ∀ k < 0x80, Char.ofNat k = (Char.ofNat k).toLower ∨
      Char.ofNat k = (Char.ofNat k).toLower.toUpper := by decide
  rcases Nat.lt_or_ge c.toNat 0x80 with ascii | high
  · simpa only [Char.ofNat_toNat] using every c.toNat ascii
  · exact Or.inl (toLower_of_high high).symm

theorem toLower_hexDigit : ∀ n < 16,
    (hexDigit n).toLower = hexDigit n ∧ (hexDigit n).toUpper.toLower = hexDigit n := by
  decide

theorem isHexDigit_iff_toLower {c : Char} {n : Nat} :
    IsHexDigit c n ↔ n < 16 ∧ c.toLower = hexDigit n := by
  constructor
  · rintro ⟨small, rfl | rfl⟩
    · exact ⟨small, (toLower_hexDigit n small).1⟩
    · exact ⟨small, (toLower_hexDigit n small).2⟩
  · rintro ⟨small, lower⟩
    exact ⟨small, lower ▸ eq_toLower_or c⟩

theorem map_toLower_hexByte (b : UInt8) : (hexByte b).map Char.toLower = hexByte b := by
  have fits := b.toNat_lt
  have high := (toLower_hexDigit (b.toNat / 16) (by omega)).1
  have low := (toLower_hexDigit (b.toNat % 16) (Nat.mod_lt _ (by decide))).1
  simp only [hexByte, List.map_cons, List.map_nil, high, low]
  rfl

theorem map_toLower_hexBytes (bytes : Bytes) :
    (bytes.flatMap hexByte).map Char.toLower = bytes.flatMap hexByte := by
  simp only [List.map_flatMap, map_toLower_hexByte]

/-- Characters spell bytes by two digits each when they differ from what is written for the
bytes in the case of digits alone. -/
theorem escapes_isHexPair_iff_map_toLower {cs : List Char} {bytes : Bytes} :
    Escapes IsHexPair cs bytes ↔
      cs.map Char.toLower = bytes.flatMap hexByte ∧ 'X' ∉ cs := by
  constructor
  · intro escapes
    refine ⟨?_, escapes.not_mem rfl (by decide)⟩
    induction escapes with
    | nil => rfl
    | cons pair others ih =>
      rw [List.flatMap_cons, ← ih]
      simp only [List.map_cons, (isHexDigit_iff_toLower.1 pair.1).2,
        (isHexDigit_iff_toLower.1 pair.2).2]
      rfl
  · rintro ⟨same, unmarked⟩
    induction bytes generalizing cs with
    | nil =>
      obtain rfl := List.map_eq_nil_iff.1 same
      exact .nil
    | cons b bytes ih =>
      have fits := b.toNat_lt
      simp only [List.flatMap_cons, hexByte, List.cons_append, List.nil_append,
        List.map_eq_cons_iff] at same
      obtain ⟨slash, _, rfl, isSlash, mark, _, rfl, isMark, high, _, rfl, isHigh, low, rest, rfl,
        isLow, same⟩ := same
      simp only [List.mem_cons, not_or] at unmarked
      obtain ⟨-, notUpper, -, -, unmarked⟩ := unmarked
      obtain rfl : slash = '\\' := by
        have := eq_toLower_or slash
        rw [isSlash] at this
        exact this.elim id id
      obtain rfl : mark = 'x' := by
        have := eq_toLower_or mark
        rw [isMark] at this
        exact this.resolve_right (Ne.symm notUpper)
      refine .cons ⟨?_, ?_⟩ (ih same unmarked)
      · exact isHexDigit_iff_toLower.2 ⟨by omega, isHigh⟩
      · exact isHexDigit_iff_toLower.2 ⟨Nat.mod_lt _ (by decide), isLow⟩

/-- The escapes of two digits are what is written for the bytes, with the digits in either
case. -/
theorem escapes_isHexPair_iff_sameLetters {text : String} {bytes : Bytes} :
    Escapes IsHexPair text.toList bytes ↔
      sameLetters text (hexEscape bytes) = true ∧ 'X' ∉ text.toList := by
  rw [escapes_isHexPair_iff_map_toLower, sameLetters, beq_iff_eq, hexEscape,
    String.toList_ofList, map_toLower_hexBytes]

end KeyConsole.Text
