import KeyConsole.Proofs.Text.Words
import KeyConsole.Text.Ascii
import KeyConsole.Text.Utf8

/-!
# ASCII in encoded texts

A character of ASCII is its own only byte, and every byte of any other
character is at least 0x80.  The bytes of a text therefore have the letters and
the blanks of ASCII exactly where the text has them: two texts agree up to the
case of ASCII letters when their bytes do, and a word is one word of bytes.
-/

namespace KeyConsole.Text

theorem encodeChar_of_ascii {c : Char} (ascii : c.toNat < 0x80) :
    encodeChar c = [UInt8.ofNat c.toNat] := by
  have small : c.val.toNat ≤ 127 := by
    have : c.val.toNat < 0x80 := ascii
    omega
  simp only [encodeChar, String.utf8EncodeChar, small, if_true]
  rfl

theorem high_ofNat {n : Nat} (high : 0x80 ≤ n) (fits : n < 0x100) : 0x80 ≤ UInt8.ofNat n := by
  rw [UInt8.le_iff_toNat_le, UInt8.toNat_ofNat', Nat.mod_eq_of_lt fits]
  exact high

/-- The bytes of a character outside ASCII are none of ASCII. -/
theorem high_of_mem_encodeChar {c : Char} {b : UInt8} (high : 0x80 ≤ c.toNat)
    (mem : b ∈ encodeChar c) : 0x80 ≤ b := by
  have large : ¬ c.val.toNat ≤ 127 := by
    have : 0x80 ≤ c.val.toNat := high
    omega
  simp only [encodeChar, String.utf8EncodeChar, large, if_false] at mem
  split at mem
  · simp only [List.mem_cons, List.not_mem_nil, or_false] at mem
    rcases mem with rfl | rfl <;> exact high_ofNat (by omega) (by omega)
  · split at mem
    · simp only [List.mem_cons, List.not_mem_nil, or_false] at mem
      rcases mem with rfl | rfl | rfl <;> exact high_ofNat (by omega) (by omega)
    · simp only [List.mem_cons, List.not_mem_nil, or_false] at mem
      rcases mem with rfl | rfl | rfl | rfl <;> exact high_ofNat (by omega) (by omega)

/-- The bytes of a text are those of its characters in turn. -/
theorem encode_eq_flatMap (text : String) : encode text = text.toList.flatMap encodeChar := by
  rw [← encode_ofList, String.ofList_toList]

/-! ## Letters -/

theorem lowerByte_of_high {b : UInt8} (high : 0x80 ≤ b) : lowerByte b = b := by
  rw [lowerByte, if_neg]
  simp only [Bool.and_eq_true, decide_eq_true_eq, not_and]
  rw [UInt8.le_iff_toNat_le] at *
  intro _
  have : (0x80 : UInt8).toNat = 0x80 := rfl
  have : (0x5A : UInt8).toNat = 0x5A := rfl
  rw [UInt8.le_iff_toNat_le]
  omega

theorem toLower_of_high {c : Char} (high : 0x80 ≤ c.toNat) : c.toLower = c := by
  refine dif_neg ?_
  rintro ⟨-, low⟩
  have upper : c.val.toNat ≤ 'Z'.val.toNat := low
  have : 'Z'.val.toNat = 0x5A := rfl
  have : 0x80 ≤ c.val.toNat := high
  omega

/-- Both foldings of the case do the same to a character of ASCII. -/
theorem lowerByte_ofNat : ∀ n < 0x80,
    [lowerByte (UInt8.ofNat n)] = encodeChar (Char.ofNat n).toLower := by
  decide

/-- Folding the case of a character folds the case of its bytes. -/
theorem map_lowerByte_encodeChar (c : Char) :
    (encodeChar c).map lowerByte = encodeChar c.toLower := by
  rcases Nat.lt_or_ge c.toNat 0x80 with ascii | high
  · rw [encodeChar_of_ascii ascii, List.map_singleton, lowerByte_ofNat _ ascii, Char.ofNat_toNat]
  · rw [toLower_of_high high]
    exact (List.map_congr_left fun b mem => lowerByte_of_high (high_of_mem_encodeChar high mem)).trans
      (List.map_id _)

theorem map_lowerByte_encode (text : String) :
    (encode text).map lowerByte = encode (String.ofList (text.toList.map Char.toLower)) := by
  simp only [encode_eq_flatMap, String.toList_ofList, List.map_flatMap, List.flatMap_map,
    map_lowerByte_encodeChar]

/-- Texts agree up to case exactly when their bytes do. -/
theorem map_lowerByte_encode_eq_iff (first second : String) :
    (encode first).map lowerByte = (encode second).map lowerByte
      ↔ first.toList.map Char.toLower = second.toList.map Char.toLower := by
  rw [map_lowerByte_encode, map_lowerByte_encode]
  constructor
  · intro same
    exact String.ofList_injective (encode_injective same)
  · intro same
    rw [same]

/-! ## Blanks -/

theorem isAsciiBlank_of_high {b : UInt8} (high : 0x80 ≤ b) : isAsciiBlank b = false := by
  rw [UInt8.le_iff_toNat_le] at high
  have : (0x80 : UInt8).toNat = 0x80 := rfl
  simp only [isAsciiBlank, Bool.or_eq_false_iff, beq_eq_false_iff_ne, ne_eq]
  refine ⟨⟨⟨⟨?_, ?_⟩, ?_⟩, ?_⟩, ?_⟩ <;>
    · rintro rfl
      revert high
      decide

/-- A byte of ASCII that is blank is the byte of a blank character. -/
theorem isBlank_ofNat : ∀ n < 0x80,
    isAsciiBlank (UInt8.ofNat n) = true → isBlank (Char.ofNat n) = true := by
  decide

theorem isAsciiBlank_of_mem_encode {text : String} (visible : ∀ c ∈ text.toList, isBlank c = false)
    {b : UInt8} (mem : b ∈ encode text) : isAsciiBlank b = false := by
  rw [encode_eq_flatMap] at mem
  obtain ⟨c, isChar, isByte⟩ := List.mem_flatMap.1 mem
  rcases Nat.lt_or_ge c.toNat 0x80 with ascii | high
  · rw [encodeChar_of_ascii ascii, List.mem_singleton] at isByte
    subst isByte
    rw [← Bool.not_eq_true]
    intro blank
    have := isBlank_ofNat _ ascii blank
    rw [Char.ofNat_toNat, visible c isChar] at this
    cases this
  · exact isAsciiBlank_of_high (high_of_mem_encodeChar high isByte)

theorem asciiWordsFrom_of_visible {bytes : Bytes}
    (visible : ∀ b ∈ bytes, isAsciiBlank b = false) (word : Bytes) :
    asciiWordsFrom word bytes =
      if (word ++ bytes).isEmpty then [] else [word ++ bytes] := by
  induction bytes generalizing word with
  | nil => simp [asciiWordsFrom]
  | cons b bs ih =>
    obtain ⟨first, others⟩ := List.forall_mem_cons.1 visible
    rw [asciiWordsFrom, if_neg (by simp [first]), ih others, List.append_assoc,
      List.singleton_append]

theorem encode_ne_nil {text : String} (nonempty : text ≠ "") : encode text ≠ [] := by
  intro empty
  exact nonempty (encode_injective (by rw [empty]; rfl))

/-- The bytes of a word are one word. -/
theorem asciiWords_encode {word : String} (isWord : IsWord word) :
    asciiWords (encode word) = [encode word] := by
  rw [asciiWords, asciiWordsFrom_of_visible fun b => isAsciiBlank_of_mem_encode isWord.visible]
  simp [encode_ne_nil isWord.nonempty]

end KeyConsole.Text
