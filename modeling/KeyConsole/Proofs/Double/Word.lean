import KeyConsole.Double.Shortest
import Mathlib.Data.List.TakeWhile

/-!
# The text of a double is one word

Whatever its bits, a double is written with digits, a point, a minus sign or
the letters of `NaN` and `inf`, and with at least one of them.  For the decimals
the second half needs that the shortest one is not zero: zero lies outside the
interval of numbers that read back as another double.
-/

namespace KeyConsole.Double

/-- A character of a number in positional notation. -/
def IsNumeric (c : Char) : Prop :=
  c.isDigit = true ∨ c = '.'

/-! ## Positional notation -/

theorem isDigit_of_mem_dropZeros {digits : List Char}
    (allDigits : ∀ c ∈ digits, c.isDigit = true) {c : Char} (mem : c ∈ (dropZeros digits).1) :
    c.isDigit = true := by
  have reversed : c ∈ digits.reverse.dropWhile (· == '0') := List.mem_reverse.1 mem
  exact allDigits c (List.mem_reverse.1 ((List.dropWhile_sublist _).mem reversed))

theorem ofDigitChars_eq_zero {digits : List Char} (zeros : ∀ c ∈ digits, c = '0') :
    Nat.ofDigitChars 10 digits 0 = 0 := by
  induction digits with
  | nil => exact Nat.ofDigitChars_nil
  | cons c digits ih =>
    obtain ⟨rfl, zerosTail⟩ := List.forall_mem_cons.1 zeros
    rw [Nat.ofDigitChars_cons]
    exact ih zerosTail

theorem dropZeros_toDigits_ne_nil {n : Nat} (positive : n ≠ 0) :
    (dropZeros (Nat.toDigits 10 n)).1 ≠ [] := by
  intro dropped
  have zeros : ∀ c ∈ Nat.toDigits 10 n, c = '0' := by
    have all := List.dropWhile_eq_nil_iff.1 (List.reverse_eq_nil_iff.1 dropped)
    intro c mem
    exact eq_of_beq (all c (List.mem_reverse.2 mem))
  apply positive
  rw [← Nat.ofDigitChars_ten_toDigits (n := n)]
  exact ofDigitChars_eq_zero zeros

theorem isNumeric_of_mem_positional {decimal : Decimal} {c : Char}
    (mem : c ∈ decimal.positional) : IsNumeric c := by
  have digits : ∀ c ∈ (dropZeros (Nat.toDigits 10 decimal.digits)).1, c.isDigit = true :=
    fun c => isDigit_of_mem_dropZeros fun _ =>
      Nat.isDigit_of_mem_toDigits (by decide) (by decide)
  have zeros : ∀ n, ∀ c ∈ List.replicate n '0', c.isDigit = true := by
    intro n c mem
    rw [List.eq_of_mem_replicate mem]
    rfl
  unfold Decimal.positional at mem
  simp only at mem
  split at mem
  · rcases List.mem_append.1 mem with mem | mem
    · exact Or.inl (digits c mem)
    · exact Or.inl (zeros _ c mem)
  split at mem
  · rcases List.mem_append.1 mem with mem | mem
    · exact Or.inl (digits c (List.mem_of_mem_take mem))
    · rcases List.mem_cons.1 mem with rfl | mem
      · exact Or.inr rfl
      · exact Or.inl (digits c (List.mem_of_mem_drop mem))
  · rcases List.mem_cons.1 mem with rfl | mem
    · exact Or.inl rfl
    rcases List.mem_cons.1 mem with rfl | mem
    · exact Or.inr rfl
    rcases List.mem_append.1 mem with mem | mem
    · exact Or.inl (zeros _ c mem)
    · exact Or.inl (digits c mem)

theorem positional_ne_nil {decimal : Decimal} (positive : decimal.digits ≠ 0) :
    decimal.positional ≠ [] := by
  have kept := dropZeros_toDigits_ne_nil positive
  unfold Decimal.positional
  simp only
  split
  · simp [kept]
  split
  · simp
  · simp

/-! ## The shortest decimal is not zero -/

namespace Interval

/-- Zero does not read back as a number in an interval above it. -/
theorem reads_zero {i : Interval} (positive : 0 < i.low) {unit : Nat} (scaled : 0 < unit) :
    i.reads unit 0 = false := by
  have above : 0 < i.low * unit := Nat.mul_pos positive scaled
  unfold reads
  split
  · rw [decide_eq_false (Nat.not_le_of_gt above), Bool.false_and]
  · rw [decide_eq_false (Nat.not_lt_zero _), Bool.false_and]

theorem onGrid_ne_zero {i : Interval} (positive : 0 < i.low) {place : Int} {n : Nat}
    (found : i.onGrid place = some n) : n ≠ 0 := by
  have scaled : 0 < Nat.pow 2 i.scale.toNat * Nat.pow 10 (-place).toNat :=
    Nat.mul_pos (Nat.pow_pos (by decide)) (Nat.pow_pos (by decide))
  unfold onGrid at found
  generalize Nat.pow 2 i.scale.toNat * Nat.pow 10 (-place).toNat = unit at found scaled
  generalize Nat.pow 10 place.toNat * Nat.pow 2 (-i.scale).toNat = step at found
  simp only at found
  rintro rfl
  -- zero could only be the lower neighbour, which would have to read back
  have refuted : ∀ {down}, i.reads unit (down * step) = true → down ≠ 0 := by
    rintro down readsBack rfl
    rw [Nat.zero_mul, reads_zero positive scaled] at readsBack
    cases readsBack
  split at found
  · next readsDown _ =>
    split at found
    · cases found
    · exact refuted readsDown (Option.some.inj found)
  · next readsDown _ => exact refuted readsDown (Option.some.inj found)
  · cases found
  · cases found

theorem shortest_positional_ne_nil {i : Interval} (positive : 0 < i.low) :
    i.shortest.positional ≠ [] := by
  unfold shortest
  simp only
  cases grids : (List.range 17).findSome? _ with
  | none => decide
  | some decimal =>
    obtain ⟨extra, -, found⟩ := List.exists_of_findSome?_eq_some grids
    obtain ⟨digits, onGrid, rfl⟩ := Option.map_eq_some_iff.1 found
    exact positional_ne_nil (onGrid_ne_zero positive onGrid)

end Interval

theorem significand_ne_zero {d : Double} (notZero : d.isZero = false) : d.significand ≠ 0 := by
  have magnitude_ne : d.magnitude ≠ 0 := by
    intro zero
    rw [isZero, zero] at notZero
    cases notZero
  unfold significand
  split
  · next subnormal =>
    intro fraction_eq
    apply magnitude_ne
    have parts := Nat.div_add_mod d.magnitude fractionBound
    rw [← exponentField, ← fraction, subnormal, fraction_eq] at parts
    exact parts.symm
  · exact Nat.ne_of_gt (Nat.add_pos_left (by decide) _)

theorem interval_low_pos {d : Double} (notZero : d.isZero = false) : 0 < d.interval.low := by
  have positive := significand_ne_zero notZero
  simp only [interval]
  split <;> omega

/-! ## The whole text -/

/-- The characters in the texts of doubles. -/
def IsWordChar (c : Char) : Prop :=
  IsNumeric c ∨ c ∈ ['N', 'a', 'i', 'n', 'f', '-']

theorem isWordChar_of_mem_textChars {d : Double} {c : Char} (mem : c ∈ d.textChars) :
    IsWordChar c := by
  unfold textChars at mem
  simp only at mem
  split at mem
  · have letters : ['N', 'a', 'N'] ⊆ ['N', 'a', 'i', 'n', 'f', '-'] := by decide
    exact Or.inr (letters mem)
  have size : ∀ c ∈ (if d.isInfinite then ['i', 'n', 'f'] else if d.isZero then ['0']
      else d.shortest.positional), IsWordChar c := by
    intro c mem
    split at mem
    · have letters : ['i', 'n', 'f'] ⊆ ['N', 'a', 'i', 'n', 'f', '-'] := by decide
      exact Or.inr (letters mem)
    split at mem
    · rw [List.mem_singleton.1 mem]
      exact Or.inl (Or.inl rfl)
    · exact Or.inl (isNumeric_of_mem_positional mem)
  split at mem
  · rcases List.mem_cons.1 mem with rfl | mem
    · exact Or.inr (by decide)
    · exact size c mem
  · exact size c mem

theorem textChars_ne_nil (d : Double) : d.textChars ≠ [] := by
  unfold textChars
  split
  · decide
  simp only
  split
  · exact List.cons_ne_nil _ _
  split
  · decide
  split
  · decide
  · next notZero =>
    exact Interval.shortest_positional_ne_nil
      (interval_low_pos (Bool.eq_false_iff.2 notZero))

end KeyConsole.Double
