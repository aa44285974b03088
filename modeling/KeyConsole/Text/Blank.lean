/-!
# Blank characters

The characters with the Unicode property White_Space, and the cuts of a text
that depend on them: trimming, words and lines.
-/

namespace KeyConsole.Text

/-- The code points with the property White_Space, as closed ranges. -/
def blankRanges : List (Nat × Nat) :=
  [(0x09, 0x0D), (0x20, 0x20), (0x85, 0x85), (0xA0, 0xA0), (0x1680, 0x1680),
    (0x2000, 0x200A), (0x2028, 0x2029), (0x202F, 0x202F), (0x205F, 0x205F),
    (0x3000, 0x3000)]

/-- A character is blank when its code point has the property White_Space. -/
def isBlank (c : Char) : Bool :=
  blankRanges.any fun range => range.1 ≤ c.toNat && c.toNat ≤ range.2

/-- A character is a control when it belongs to the general category Cc. -/
def isControl (c : Char) : Bool :=
  c.toNat < 0x20 || (0x7F ≤ c.toNat && c.toNat < 0xA0)

/-- Whether a text holds a blank. -/
def hasBlank (text : String) : Bool :=
  text.toList.any isBlank

/-- Cut the blanks off both ends. -/
def trimChars (cs : List Char) : List Char :=
  ((cs.dropWhile isBlank).reverse.dropWhile isBlank).reverse

/-- Cut the blanks off both ends of a text. -/
def trim (text : String) : String :=
  String.ofList (trimChars text.toList)

/-- Whether a text holds nothing but blanks. -/
def isBlankText (text : String) : Bool :=
  text.toList.all isBlank

/-- The maximal runs of characters that are not blank, the word under way
being `word`. -/
def wordsFrom (word : List Char) : List Char → List (List Char)
  | [] => if word.isEmpty then [] else [word]
  | c :: cs =>
    if isBlank c then
      if word.isEmpty then wordsFrom [] cs else word :: wordsFrom [] cs
    else wordsFrom (word ++ [c]) cs

/-- The maximal runs of characters that are not blank. -/
def words (text : String) : List String :=
  (wordsFrom [] text.toList).map String.ofList

/-- Take one final carriage return off a line. -/
def dropReturn (line : List Char) : List Char :=
  if line.getLast? = some '\r' then line.dropLast else line

/-- The lines of a text, the line under way being `line`.  A line feed ends a
line and takes a carriage return in front of it along; what follows the last
line feed is a line only when it is not empty. -/
def linesFrom (line : List Char) : List Char → List (List Char)
  | [] => if line.isEmpty then [] else [line]
  | c :: cs =>
    if c = '\n' then dropReturn line :: linesFrom [] cs
    else linesFrom (line ++ [c]) cs

/-- The lines of a text, without their line ends. -/
def lines (text : String) : List String :=
  (linesFrom [] text.toList).map String.ofList

/-- Cut a list of characters at its first `sep`, which belongs to neither
part. -/
def cutAt (sep : Char) : List Char → Option (List Char × List Char)
  | [] => none
  | c :: cs =>
    if c = sep then some ([], cs)
    else (cutAt sep cs).map fun parts => (c :: parts.1, parts.2)

end KeyConsole.Text
