/-!
# UTF-8

Keys, arguments and stored items are byte strings; texts are written into them
as UTF-8.  `decode?` reads exactly the encodings back, and `lossy` reads any
bytes, putting U+FFFD where they are malformed.
-/

namespace KeyConsole

/-- A byte string. -/
abbrev Bytes := List UInt8

namespace Text

/-- The UTF-8 bytes of a text. -/
def encode (text : String) : Bytes :=
  text.toByteArray.data.toList

/-- The text that the bytes encode, if they are well formed. -/
def decode? (bytes : Bytes) : Option String :=
  String.fromUTF8? ⟨bytes.toArray⟩

/-- The UTF-8 bytes of one character. -/
def encodeChar (c : Char) : Bytes :=
  String.utf8EncodeChar c

/-- The ranges in which the bytes after a leading byte must lie, in turn;
nothing for a byte that cannot lead. -/
def followers (lead : UInt8) : Option (List (UInt8 × UInt8)) :=
  if lead ≤ 0x7F then some []
  else if 0xC2 ≤ lead && lead ≤ 0xDF then some [(0x80, 0xBF)]
  else if lead == 0xE0 then some [(0xA0, 0xBF), (0x80, 0xBF)]
  else if lead == 0xED then some [(0x80, 0x9F), (0x80, 0xBF)]
  else if 0xE1 ≤ lead && lead ≤ 0xEF then some [(0x80, 0xBF), (0x80, 0xBF)]
  else if lead == 0xF0 then some [(0x90, 0xBF), (0x80, 0xBF), (0x80, 0xBF)]
  else if 0xF1 ≤ lead && lead ≤ 0xF3 then
    some [(0x80, 0xBF), (0x80, 0xBF), (0x80, 0xBF)]
  else if lead == 0xF4 then some [(0x80, 0x8F), (0x80, 0xBF), (0x80, 0xBF)]
  else none

/-- How many leading bytes lie in the ranges, taken in turn. -/
def accepted : List (UInt8 × UInt8) → Bytes → Nat
  | (low, high) :: ranges, b :: bs =>
    if low ≤ b && b ≤ high then accepted ranges bs + 1 else 0
  | _, _ => 0

/-- The character of a complete sequence: the low bits of the leading byte,
then six bits of each byte after it. -/
def assemble (lead : UInt8) (rest : Bytes) : Char :=
  let start := match rest.length with
    | 0 => lead.toNat
    | 1 => lead.toNat % 0x20
    | 2 => lead.toNat % 0x10
    | _ => lead.toNat % 0x08
  Char.ofNat (rest.foldl (fun code b => code * 0x40 + b.toNat % 0x40) start)

/-- The longest start of the bytes that is a character or the beginning of
one is read as that character, or as U+FFFD if it is incomplete; a byte that
begins no character is U+FFFD by itself.  The first `skip` bytes have been
read already. -/
def lossyFrom (skip : Nat) : Bytes → List Char
  | [] => []
  | b :: bs =>
    match skip with
    | skip + 1 => lossyFrom skip bs
    | 0 =>
      match followers b with
      | none => '\uFFFD' :: lossyFrom 0 bs
      | some ranges =>
        let count := accepted ranges bs
        if count = ranges.length then
          assemble b (bs.take count) :: lossyFrom count bs
        else '\uFFFD' :: lossyFrom count bs

/-- Any bytes as a text: themselves if well formed, else with U+FFFD in place
of each maximal malformed part. -/
def lossy (bytes : Bytes) : String :=
  match decode? bytes with
  | some text => text
  | none => String.ofList (lossyFrom 0 bytes)

theorem decode?_encode (text : String) : decode? (encode text) = some text := by
  unfold decode? encode String.fromUTF8?
  simp only [Array.toArray_toList]
  rw [dif_pos]
  · rfl
  · exact text.isValidUTF8

theorem encode_of_decode? {bytes : Bytes} {text : String}
    (decoded : decode? bytes = some text) : encode text = bytes := by
  unfold decode? String.fromUTF8? at decoded
  split at decoded
  · cases decoded
    rfl
  · cases decoded

/-- Bytes decode to a text exactly when they are its encoding. -/
theorem decode?_eq_some_iff {bytes : Bytes} {text : String} :
    decode? bytes = some text ↔ encode text = bytes :=
  ⟨encode_of_decode?, fun encoded => encoded ▸ decode?_encode text⟩

theorem encode_injective {first second : String} (same : encode first = encode second) :
    first = second :=
  Option.some.inj ((decode?_encode first).symm.trans (same ▸ decode?_encode second))

/-- A text is encoded character by character. -/
theorem encode_ofList (cs : List Char) : encode (String.ofList cs) = cs.flatMap encodeChar := by
  rw [encode, String.toByteArray_ofList, List.utf8Encode, List.toList_data_toByteArray]
  rfl

end Text

end KeyConsole
