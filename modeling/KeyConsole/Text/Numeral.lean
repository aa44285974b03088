/-!
# Decimal numerals

Numbers in commands, settings and statistics are written with ASCII digits
alone.  A word is a number of sixty-four bits; reading takes a leading plus
sign, and a minus sign where negative numbers are admitted.
-/

namespace KeyConsole.Text

/-- One more than the largest word. -/
def wordBound : Nat := 0x10000000000000000

/-- One more than the largest signed number of sixty-four bits. -/
def signedBound : Nat := 0x8000000000000000

/-- The number that a non-empty list of ASCII digits spells. -/
def digits? (cs : List Char) : Option Nat :=
  if cs.isEmpty || !cs.all Char.isDigit then none else some (Nat.ofDigitChars 10 cs 0)

/-- Take a plus sign off the front. -/
def dropPlus : List Char → List Char
  | '+' :: cs => cs
  | cs => cs

/-- The word that a text spells, if it spells one. -/
def word? (text : String) : Option Nat :=
  (digits? (dropPlus text.toList)).bind fun n => if n < wordBound then some n else none

/-- The signed number of sixty-four bits that a text spells, if it spells
one. -/
def int64? (text : String) : Option Int64 :=
  match text.toList with
  | '-' :: cs =>
    (digits? cs).bind fun n => if n ≤ signedBound then some (Int64.ofInt (-n)) else none
  | cs =>
    (digits? (dropPlus cs)).bind fun n =>
      if n < signedBound then some (Int64.ofInt n) else none

/-- The decimal numeral of a natural number. -/
def natural (n : Nat) : String :=
  String.ofList (Nat.toDigits 10 n)

/-- The decimal numeral of an integer, with a minus sign if it is negative. -/
def integer (n : Int) : String :=
  if n < 0 then "-" ++ natural n.natAbs else natural n.natAbs

theorem digits?_toDigits (n : Nat) : digits? (Nat.toDigits 10 n) = some n := by
  have digits : (Nat.toDigits 10 n).all Char.isDigit = true :=
    List.all_eq_true.2 fun _ mem => Nat.isDigit_of_mem_toDigits (by decide) (by decide) mem
  simp [digits?, Nat.toDigits_ne_nil, digits, Nat.ofDigitChars_ten_toDigits]

theorem toDigits_ne_plus {n : Nat} {cs : List Char} : Nat.toDigits 10 n ≠ '+' :: cs := by
  intro spelled
  have mem : '+' ∈ Nat.toDigits 10 n := spelled ▸ List.mem_cons_self
  exact absurd (Nat.isDigit_of_mem_toDigits (by decide) (by decide) mem) (by decide)

/-- Reading a word undoes writing it. -/
theorem word?_natural {n : Nat} (isWord : n < wordBound) : word? (natural n) = some n := by
  have noPlus : dropPlus (Nat.toDigits 10 n) = Nat.toDigits 10 n := by
    unfold dropPlus
    split
    · next spelled => exact absurd spelled toDigits_ne_plus
    · rfl
  simp [word?, natural, noPlus, digits?_toDigits, isWord]

end KeyConsole.Text
