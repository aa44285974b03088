import KeyConsole.Value.Basic

/-!
# Stored form of values

A value is stored as a mark byte and its encoding: the number of its kind in
four bytes, then its contents.  Numbers are little-endian, and every text or
list is preceded by its length in eight bytes.  Bytes that are no encoding
stand for themselves, as a string or a byte array.
-/

namespace KeyConsole.Value

/-- The byte in front of every encoding. -/
def mark : UInt8 := 0xFE

/-- The lowest `width` bytes of a number, least significant first. -/
def littleEndian : Nat → Nat → Bytes
  | 0, _ => []
  | width + 1, n => UInt8.ofNat (n % 256) :: littleEndian width (n / 256)

/-- The number of a kind in its encoding. -/
def tagBytes (tag : Nat) : Bytes :=
  littleEndian 4 tag

/-- A length in its encoding. -/
def lengthBytes (n : Nat) : Bytes :=
  littleEndian 8 n

/-- A text in its encoding: the length of its bytes, then the bytes. -/
def textBytes (text : String) : Bytes :=
  let bytes := Text.encode text
  lengthBytes bytes.length ++ bytes

/-- The sixty-four bits of an integer. -/
def integerBytes (n : Int64) : Bytes :=
  littleEndian 8 n.toUInt64.toNat

/-- The sixty-four bits of a double. -/
def doubleBytes (d : Double) : Bytes :=
  littleEndian 8 d.bits.toNat

mutual

/-- The encoding of a value without the mark. -/
def body : Value → Bytes
  | null => tagBytes 0
  | boolean value => tagBytes 1 ++ [if value then 1 else 0]
  | integer value => tagBytes 2 ++ integerBytes value
  | double value => tagBytes 3 ++ doubleBytes value
  | string text => tagBytes 4 ++ textBytes text
  | byteArray bytes => tagBytes 5 ++ lengthBytes bytes.length ++ bytes
  | array items => tagBytes 6 ++ lengthBytes items.length ++ itemsBody items
  | set members => tagBytes 7 ++ lengthBytes members.length ++ itemsBody members
  | scoredSet members => tagBytes 8 ++ lengthBytes members.length ++ scoredBody members
  | hash fields => tagBytes 9 ++ lengthBytes fields.length ++ fieldsBody fields
  | json text => tagBytes 10 ++ textBytes text
  | graph => tagBytes 11
  | searchIndex => tagBytes 12
  | searchTerm => tagBytes 13

/-- The encodings of values in turn. -/
def itemsBody : List Value → Bytes
  | [] => []
  | item :: items => body item ++ itemsBody items

/-- The encodings of scored members in turn. -/
def scoredBody : List (Value × Double) → Bytes
  | [] => []
  | (member, score) :: members => body member ++ doubleBytes score ++ scoredBody members

/-- The encodings of fields in turn. -/
def fieldsBody : List (Value × Value) → Bytes
  | [] => []
  | (field, value) :: fields => body field ++ body value ++ fieldsBody fields

end

/-- The stored form of a value. -/
def encode (value : Value) : Bytes :=
  mark :: body value

/-! ## Reading

A reader takes what it reads off the front of the bytes and returns the rest. -/

/-- A reader of some kind of data. -/
abbrev Reader (α : Type) := Bytes → Option (α × Bytes)

/-- The number that bytes spell, least significant first. -/
def ofLittleEndian : Bytes → Nat
  | [] => 0
  | b :: bs => b.toNat + 256 * ofLittleEndian bs

/-- Read a fixed number of bytes. -/
def readBytes (count : Nat) : Reader Bytes := fun bytes =>
  if count ≤ bytes.length then some (bytes.take count, bytes.drop count) else none

theorem length_littleEndian (width n : Nat) : (littleEndian width n).length = width := by
  induction width generalizing n with
  | zero => rfl
  | succ width ih => simp [littleEndian, ih]

theorem ofLittleEndian_littleEndian (width n : Nat) :
    ofLittleEndian (littleEndian width n) = n % Nat.pow 256 width := by
  induction width generalizing n with
  | zero => exact (Nat.mod_one n).symm
  | succ width ih =>
    have step : Nat.pow 256 (width + 1) = 256 * Nat.pow 256 width := Nat.mul_comm _ _
    have lowest : (UInt8.ofNat (n % 256)).toNat = n % 256 := by simp
    rw [step, Nat.mod_mul, littleEndian, ofLittleEndian, ih, lowest]

/-- Read a number of fixed width. -/
def readNumber (width : Nat) : Reader Nat := fun bytes =>
  (readBytes width bytes).map fun (front, rest) => (ofLittleEndian front, rest)

theorem readBytes_append (front rest : Bytes) :
    readBytes front.length (front ++ rest) = some (front, rest) := by
  simp [readBytes]

/-- Reading a number undoes writing it. -/
theorem readNumber_littleEndian {width n : Nat} (fits : n < Nat.pow 256 width) (rest : Bytes) :
    readNumber width (littleEndian width n ++ rest) = some (n, rest) := by
  have front := readBytes_append (littleEndian width n) rest
  rw [length_littleEndian] at front
  have number := ofLittleEndian_littleEndian width n
  rw [Nat.mod_eq_of_lt fits] at number
  simp only [readNumber, front, Option.map_some, number]

/-- Read a length, then as many bytes. -/
def readBlock : Reader Bytes := fun bytes => do
  let (count, rest) ← readNumber 8 bytes
  readBytes count rest

/-- Read a text, which must be well-formed UTF-8. -/
def readText : Reader String := fun bytes => do
  let (block, rest) ← readBlock bytes
  let text ← Text.decode? block
  return (text, rest)

/-- Read an integer. -/
def readInteger : Reader Int64 := fun bytes => do
  let (bits, rest) ← readNumber 8 bytes
  return ((UInt64.ofNat bits).toInt64, rest)

/-- Read a double. -/
def readDouble : Reader Double := fun bytes => do
  let (bits, rest) ← readNumber 8 bytes
  return (⟨UInt64.ofNat bits⟩, rest)

/-- Read a number of things in turn. -/
def readMany {α : Type} (reader : Reader α) : Nat → Reader (List α)
  | 0, bytes => some ([], bytes)
  | count + 1, bytes => do
    let (first, rest) ← reader bytes
    let (others, rest) ← readMany reader count rest
    return (first :: others, rest)

/-- Read two things in turn. -/
def readPair {α β : Type} (first : Reader α) (second : Reader β) : Reader (α × β) :=
  fun bytes => do
    let (a, rest) ← first bytes
    let (b, rest) ← second rest
    return ((a, b), rest)

/-- Read a length, then as many things. -/
def readList {α : Type} (reader : Reader α) : Reader (List α) := fun bytes => do
  let (count, rest) ← readNumber 8 bytes
  readMany reader count rest

/-- Read the contents of a value whose kind has the number `tag`, and the values
in it by `inner`. -/
def readContents (inner : Reader Value) (tag : Nat) : Reader Value := fun bytes =>
  match tag with
  | 0 => some (null, bytes)
  | 1 =>
    match bytes with
    | 0 :: rest => some (boolean false, rest)
    | 1 :: rest => some (boolean true, rest)
    | _ => none
  | 2 => (readInteger bytes).map fun (n, rest) => (integer n, rest)
  | 3 => (readDouble bytes).map fun (d, rest) => (double d, rest)
  | 4 => (readText bytes).map fun (text, rest) => (string text, rest)
  | 5 => (readBlock bytes).map fun (block, rest) => (byteArray block, rest)
  | 6 => (readList inner bytes).map fun (items, rest) => (array items, rest)
  | 7 => (readList inner bytes).map fun (members, rest) => (set members, rest)
  | 8 =>
    (readList (readPair inner readDouble) bytes).map fun (members, rest) =>
      (scoredSet members, rest)
  | 9 => (readList (readPair inner inner) bytes).map fun (fields, rest) => (hash fields, rest)
  | 10 => (readText bytes).map fun (text, rest) => (json text, rest)
  | 11 => some (graph, bytes)
  | 12 => some (searchIndex, bytes)
  | 13 => some (searchTerm, bytes)
  | _ => none

/-- Read a value that nests at most `depth` deep. -/
def readWithin : Nat → Reader Value
  | 0, _ => none
  | depth + 1, bytes => do
    let (tag, rest) ← readNumber 4 bytes
    readContents (readWithin depth) tag rest

/-- Read a value.  Each level of nesting takes at least one byte, so the
number of bytes bounds the depth. -/
def read : Reader Value := fun bytes =>
  readWithin (bytes.length + 1) bytes

/-- The value that stored bytes stand for. -/
def decode (raw : Bytes) : Value :=
  match raw with
  | [] => ofBytes []
  | first :: rest =>
    if first = mark then
      match read rest with
      | some (value, _) => value
      | none => ofBytes raw
    else ofBytes raw

end KeyConsole.Value
