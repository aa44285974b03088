/-!
# ASCII letters and blanks

Command names, option names and backend names are compared without regard to
the case of ASCII letters; every other character or byte stands for itself.
-/

namespace KeyConsole.Text

/-- The lower-case form of an ASCII letter; any other byte is unchanged. -/
def lowerByte (b : UInt8) : UInt8 :=
  if 0x41 ≤ b && b ≤ 0x5A then b + 0x20 else b

/-- Byte strings that agree up to the case of ASCII letters. -/
def sameLettersBytes (xs ys : List UInt8) : Bool :=
  xs.map lowerByte == ys.map lowerByte

/-- Texts that agree up to the case of ASCII letters. -/
def sameLetters (a b : String) : Bool :=
  a.toList.map Char.toLower == b.toList.map Char.toLower

/-- The blanks of ASCII: tab, line feed, form feed, carriage return, space. -/
def isAsciiBlank (b : UInt8) : Bool :=
  b == 0x20 || b == 0x09 || b == 0x0A || b == 0x0C || b == 0x0D

/-- The maximal runs of bytes that are not ASCII blanks, the run under way
being `word`. -/
def asciiWordsFrom (word : List UInt8) : List UInt8 → List (List UInt8)
  | [] => if word.isEmpty then [] else [word]
  | b :: bs =>
    if isAsciiBlank b then
      if word.isEmpty then asciiWordsFrom [] bs else word :: asciiWordsFrom [] bs
    else asciiWordsFrom (word ++ [b]) bs

/-- The maximal runs of bytes that are not ASCII blanks. -/
def asciiWords (bytes : List UInt8) : List (List UInt8) :=
  asciiWordsFrom [] bytes

end KeyConsole.Text
