import KeyConsole.Text.Numeral
import KeyConsole.Text.Utf8

/-!
# Hex escapes

A byte is spelled `\x` and two hexadecimal digits.  Writing uses lower-case
digits.  Reading takes the two characters for a hexadecimal numeral, which may
have digits of either case and, like a decimal one, a leading plus sign.
-/

namespace KeyConsole.Text

/-- The lower-case hexadecimal digit of a number below sixteen. -/
def hexDigit (n : Nat) : Char :=
  Nat.digitChar n

/-- The number that a hexadecimal digit of either case stands for. -/
def hexValue? (c : Char) : Option Nat :=
  if '0' ≤ c ∧ c ≤ '9' then some (c.toNat - 0x30)
  else if 'a' ≤ c ∧ c ≤ 'f' then some (c.toNat - 0x57)
  else if 'A' ≤ c ∧ c ≤ 'F' then some (c.toNat - 0x37)
  else none

/-- The number that a non-empty list of hexadecimal digits spells. -/
def hexDigits? (cs : List Char) : Option Nat :=
  if cs.isEmpty then none
  else cs.foldlM (fun n c => (hexValue? c).map fun digit => 16 * n + digit) 0

/-- The byte that a hexadecimal numeral spells, if it spells one. -/
def hexNumeral? (cs : List Char) : Option UInt8 :=
  (hexDigits? (dropPlus cs)).bind fun n => if n < 0x100 then some (UInt8.ofNat n) else none

/-- The byte that two characters spell. -/
def bytePair? (high low : Char) : Option UInt8 :=
  hexNumeral? [high, low]

/-- The four characters that spell a byte. -/
def hexByte (b : UInt8) : List Char :=
  ['\\', 'x', hexDigit (b.toNat / 16), hexDigit (b.toNat % 16)]

/-- Spell every byte as an escape. -/
def hexEscape (bytes : Bytes) : String :=
  String.ofList (bytes.flatMap hexByte)

/-- The byte that the last two bytes of an escape spell. -/
def escapedByte? (high low : UInt8) : Option UInt8 :=
  (decode? [high, low]).bind fun digits => hexNumeral? digits.toList

/-- Read a sequence of escapes, and nothing else, back into bytes.  An escape is
four bytes, whatever characters these belong to. -/
def unescapeBytes? : Bytes → Option Bytes
  | [] => some []
  | backslash :: mark :: high :: low :: rest =>
    if backslash = 0x5C ∧ mark = 0x78 then
      match escapedByte? high low, unescapeBytes? rest with
      | some b, some bs => some (b :: bs)
      | _, _ => none
    else none
  | _ => none

/-- The bytes that a text of escapes spells. -/
def hexUnescape? (text : String) : Option Bytes :=
  unescapeBytes? (encode text)

theorem bytePair?_hexDigit (b : UInt8) :
    bytePair? (hexDigit (b.toNat / 16)) (hexDigit (b.toNat % 16)) = some b := by
  have every : ∀ n : Fin 256,
      bytePair? (hexDigit (n.val / 16)) (hexDigit (n.val % 16)) = some (UInt8.ofNat n.val) := by
    decide +kernel
  simpa using every ⟨b.toNat, b.toNat_lt⟩

/-- The two lower-case digits of each byte, without any mark. -/
def bareHex (bytes : Bytes) : String :=
  String.ofList (bytes.flatMap fun b => (hexByte b).drop 2)

end KeyConsole.Text
