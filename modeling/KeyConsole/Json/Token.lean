import KeyConsole.Text.Numeral

/-!
# JSON tokens

The marks, words, strings and numbers of a JSON text.  A string must hold no
control character below U+0020 and only known escapes, and its escaped
surrogates must come in pairs.  A number must lie in the range of doubles.
-/

namespace KeyConsole.Json

/-- A token, without its contents where the grammar does not need them. -/
inductive Token where
  | openBracket
  | closeBracket
  | openBrace
  | closeBrace
  | comma
  | colon
  | text
  /-- A number, or one of the words `true`, `false` and `null`. -/
  | atom
  deriving DecidableEq, Repr

/-- The blanks between tokens. -/
def isSpace (c : Char) : Bool :=
  c == ' ' || c == '\t' || c == '\n' || c == '\r'

/-- The value of a hexadecimal digit. -/
def hexDigit? (c : Char) : Option Nat :=
  if c.isDigit then some (c.toNat - 0x30)
  else if 'a' ≤ c ∧ c ≤ 'f' then some (c.toNat - 0x57)
  else if 'A' ≤ c ∧ c ≤ 'F' then some (c.toNat - 0x37)
  else none

/-- The code unit of four hexadecimal digits. -/
def codeUnit? (a b c d : Char) : Option Nat := do
  return ((← hexDigit? a) * 16 + (← hexDigit? b)) * 256
    + (← hexDigit? c) * 16 + (← hexDigit? d)

/-- What follows a string, whose opening quote has been read.  `pending` says
that the first half of a surrogate pair has just been read. -/
def afterString (pending : Bool) : List Char → Option (List Char)
  | '\\' :: 'u' :: a :: b :: c :: d :: rest =>
    match codeUnit? a b c d with
    | none => none
    | some unit =>
      if pending then
        if 0xDC00 ≤ unit && unit ≤ 0xDFFF then afterString false rest else none
      else if 0xDC00 ≤ unit && unit ≤ 0xDFFF then none
      else afterString (0xD800 ≤ unit && unit ≤ 0xDBFF) rest
  | '\\' :: c :: rest =>
    if !pending && "\"\\/bfnrt".toList.contains c then afterString false rest else none
  | '"' :: rest => if pending then none else some rest
  | c :: rest => if pending || c.toNat < 0x20 then none else afterString false rest
  | [] => none

/-- A number as it is written: its digits as one integer, and the power of ten
of the last one. -/
structure Numeral where
  digits : Nat
  exponent : Int
  deriving DecidableEq, Repr

/-- Round a natural number to fifty-three bits, a half to the even
neighbour. -/
def roundToDouble (n : Nat) : Nat :=
  let unit := Nat.pow 2 (n.log2 + 1 - 53)
  let down := n / unit
  let rest := 2 * (n % unit)
  let kept := if unit < rest || (rest == unit && down % 2 == 1) then down + 1 else down
  kept * unit

/-- The least product that rounds to infinity. -/
def overflowBound : Nat := (Nat.pow 2 54 - 1) * Nat.pow 2 970

/-- A numeral is in range when its rounded digits times its rounded power of
ten stay below infinity; zero always is, and small numbers may vanish. -/
def Numeral.inRange (numeral : Numeral) : Bool :=
  numeral.digits == 0 || numeral.exponent < 0 ||
    (numeral.exponent ≤ 308 &&
      roundToDouble numeral.digits * roundToDouble (Nat.pow 10 numeral.exponent.toNat)
        < overflowBound)

/-- Read digits into a significand of one word.  The first digit that does not
fit is left out together with all that follow it; the result tells how many
digits were taken and how many left out. -/
def significand (start : Nat) (digits : List Char) : Nat × Nat × Nat :=
  digits.foldl
    (fun (value, taken, dropped) c =>
      let next := value * 10 + (c.toNat - 0x30)
      if dropped = 0 && next < Text.wordBound then (next, taken + 1, 0)
      else (value, taken, dropped + 1))
    (start, 0, 0)

/-- A signed exponent behind `e` or `E`, and what follows it.  The outer
option fails when digits are missing. -/
def exponentPart (cs : List Char) : Option (Int × List Char) :=
  match cs with
  | c :: rest =>
    if c = 'e' ∨ c = 'E' then
      let (negative, rest) := match rest with
        | '-' :: rest => (true, rest)
        | '+' :: rest => (false, rest)
        | rest => (false, rest)
      let digits := rest.takeWhile Char.isDigit
      if digits.isEmpty then none
      else
        let value : Int := Nat.ofDigitChars 10 digits 0
        some (if negative then -value else value, rest.dropWhile Char.isDigit)
    else some (0, cs)
  | [] => some (0, [])

/-- What follows a number that is well formed and in range. -/
def afterNumber (cs : List Char) : Option (List Char) := do
  let cs := match cs with
    | '-' :: rest => rest
    | rest => rest
  let whole := cs.takeWhile Char.isDigit
  let cs := cs.dropWhile Char.isDigit
  if whole.isEmpty || (whole.head? == some '0' && whole.length != 1) then none
  else
    let (value, _, wholeDropped) := significand 0 whole
    let (digits, exponent, cs) ← (match cs with
      | '.' :: rest =>
        let places := rest.takeWhile Char.isDigit
        if places.isEmpty then none
        else
          let (value, taken, _) :=
            if wholeDropped = 0 then significand value places else (value, 0, 0)
          some (value, (wholeDropped : Int) - taken, rest.dropWhile Char.isDigit)
      | rest => some (value, (wholeDropped : Int), rest))
    let (power, cs) ← exponentPart cs
    if (Numeral.mk digits (exponent + power)).inRange then some cs else none

/-- What follows a given word. -/
def afterWord (word : List Char) (cs : List Char) : Option (List Char) :=
  if word.isPrefixOf cs then some (cs.drop word.length) else none

/-- The token at the front of a text that does not begin with a blank, and
what follows it. -/
def nextToken (cs : List Char) : Option (Token × List Char) :=
  match cs with
  | '[' :: rest => some (.openBracket, rest)
  | ']' :: rest => some (.closeBracket, rest)
  | '{' :: rest => some (.openBrace, rest)
  | '}' :: rest => some (.closeBrace, rest)
  | ',' :: rest => some (.comma, rest)
  | ':' :: rest => some (.colon, rest)
  | '"' :: rest => (afterString false rest).map (Token.text, ·)
  | 't' :: rest => (afterWord ['r', 'u', 'e'] rest).map (Token.atom, ·)
  | 'f' :: rest => (afterWord ['a', 'l', 's', 'e'] rest).map (Token.atom, ·)
  | 'n' :: rest => (afterWord ['u', 'l', 'l'] rest).map (Token.atom, ·)
  | cs => (afterNumber cs).map (Token.atom, ·)

/-- The tokens of a text, at most `budget` of them; each takes a character. -/
def tokensWithin : Nat → List Char → Option (List Token)
  | budget, cs =>
    match cs.dropWhile isSpace with
    | [] => some []
    | c :: rest =>
      match budget with
      | 0 => none
      | budget + 1 =>
        match nextToken (c :: rest) with
        | none => none
        | some (token, rest) => (tokensWithin budget rest).map (token :: ·)

/-- The tokens of a text, if it consists of tokens and blanks. -/
def tokens? (text : String) : Option (List Token) :=
  tokensWithin text.length text.toList

end KeyConsole.Json
