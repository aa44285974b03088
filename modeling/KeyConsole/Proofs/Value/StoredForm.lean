import KeyConsole.Value.Encoding

/-!
# Exactness of the stored form

A reader is exact when it succeeds on the written forms of the data that it
admits, whatever follows them, and on nothing else.  The readers of values are
exact: the numbers by their fixed width, everything else by composition, and
nested values by induction on the depth to which a reader may go.

So the values under stored bytes are determined by the first value that is
written there, and bytes at which none is written stand for themselves.  UTF-8
never has the mark as a first byte, so no text is taken for a written value.
-/

namespace KeyConsole.Value

/-- All lengths in a value are words, as they are in a memory of that size. -/
inductive IsStorable : Value → Prop
  | null : IsStorable null
  | boolean (value : Bool) : IsStorable (boolean value)
  | integer (value : Int64) : IsStorable (integer value)
  | double (value : Double) : IsStorable (double value)
  | string {text : String} (short : (Text.encode text).length < Text.wordBound) :
      IsStorable (string text)
  | byteArray {bytes : Bytes} (short : bytes.length < Text.wordBound) :
      IsStorable (byteArray bytes)
  | array {items : List Value} (short : items.length < Text.wordBound)
      (storable : ∀ item ∈ items, IsStorable item) : IsStorable (array items)
  | set {members : List Value} (short : members.length < Text.wordBound)
      (storable : ∀ member ∈ members, IsStorable member) : IsStorable (set members)
  | scoredSet {members : List (Value × Double)} (short : members.length < Text.wordBound)
      (storable : ∀ member ∈ members, IsStorable member.1) : IsStorable (scoredSet members)
  | hash {fields : List (Value × Value)} (short : fields.length < Text.wordBound)
      (storable : ∀ field ∈ fields, IsStorable field.1)
      (storableValue : ∀ field ∈ fields, IsStorable field.2) : IsStorable (hash fields)
  | json {text : String} (short : (Text.encode text).length < Text.wordBound) :
      IsStorable (json text)
  | graph : IsStorable graph
  | searchIndex : IsStorable searchIndex
  | searchTerm : IsStorable searchTerm

/-! ## Exact readers -/

/-- A reader succeeds exactly on the written forms of admitted data, and
returns what follows them. -/
def Exact {α : Type} (reader : Reader α) (write : α → Bytes) (admitted : α → Prop) : Prop :=
  ∀ bytes a rest, reader bytes = some (a, rest) ↔ admitted a ∧ bytes = write a ++ rest

theorem ofLittleEndian_lt (bytes : Bytes) :
    ofLittleEndian bytes < Nat.pow 256 bytes.length := by
  induction bytes with
  | nil => exact Nat.one_pos
  | cons b bytes ih =>
    have lowest : b.toNat < 256 := b.toNat_lt
    have step : Nat.pow 256 (b :: bytes).length = 256 * Nat.pow 256 bytes.length :=
      Nat.mul_comm _ _
    rw [step, ofLittleEndian]
    omega

theorem littleEndian_ofLittleEndian (bytes : Bytes) :
    littleEndian bytes.length (ofLittleEndian bytes) = bytes := by
  induction bytes with
  | nil => rfl
  | cons b bytes ih =>
    have lowest : b.toNat < 256 := b.toNat_lt
    have remainder : (b.toNat + 256 * ofLittleEndian bytes) % 256 = b.toNat := by omega
    have quotient : (b.toNat + 256 * ofLittleEndian bytes) / 256 = ofLittleEndian bytes := by
      omega
    rw [List.length_cons, ofLittleEndian, littleEndian, remainder, quotient, ih,
      UInt8.ofNat_toNat]

theorem readBytes_eq_some_iff {count : Nat} {bytes front rest : Bytes} :
    readBytes count bytes = some (front, rest) ↔
      front.length = count ∧ bytes = front ++ rest := by
  constructor
  · intro read
    unfold readBytes at read
    split at read
    · next enough =>
      cases read
      exact ⟨List.length_take_of_le enough, (List.take_append_drop _ _).symm⟩
    · cases read
  · rintro ⟨rfl, rfl⟩
    exact readBytes_append front rest

theorem exact_readNumber (width : Nat) :
    Exact (readNumber width) (littleEndian width) (· < Nat.pow 256 width) := by
  intro bytes n rest
  constructor
  · intro read
    obtain ⟨⟨front, after⟩, frontRead, same⟩ := Option.map_eq_some_iff.1 read
    cases same
    obtain ⟨rfl, rfl⟩ := readBytes_eq_some_iff.1 frontRead
    exact ⟨ofLittleEndian_lt front, by rw [littleEndian_ofLittleEndian]⟩
  · rintro ⟨fits, rfl⟩
    exact readNumber_littleEndian fits rest

theorem exact_readBlock :
    Exact readBlock (fun block => lengthBytes block.length ++ block)
      (fun block => block.length < Text.wordBound) := by
  intro bytes block rest
  simp only [readBlock, Option.bind_eq_bind, Option.bind_eq_some_iff, Prod.exists,
    exact_readNumber 8 _ _ _, readBytes_eq_some_iff]
  constructor
  · rintro ⟨_, _, ⟨fits, rfl⟩, rfl, rfl⟩
    exact ⟨fits, by rw [lengthBytes, List.append_assoc]⟩
  · rintro ⟨fits, rfl⟩
    exact ⟨block.length, block ++ rest, ⟨fits, by rw [lengthBytes, List.append_assoc]⟩, rfl, rfl⟩

theorem exact_readText :
    Exact readText textBytes (fun text => (Text.encode text).length < Text.wordBound) := by
  intro bytes text rest
  simp only [readText, Option.bind_eq_bind, Option.bind_eq_some_iff, Prod.exists,
    exact_readBlock _ _ _, Text.decode?_eq_some_iff]
  constructor
  · rintro ⟨_, _, ⟨fits, rfl⟩, _, rfl, same⟩
    cases same
    exact ⟨fits, rfl⟩
  · rintro ⟨fits, rfl⟩
    exact ⟨Text.encode text, rest, ⟨fits, rfl⟩, text, rfl, rfl⟩

theorem exact_readInteger : Exact readInteger integerBytes (fun _ => True) := by
  intro bytes n rest
  simp only [readInteger, Option.bind_eq_bind, Option.bind_eq_some_iff, Prod.exists,
    exact_readNumber 8 _ _ _]
  constructor
  · rintro ⟨bits, _, ⟨fits, rfl⟩, same⟩
    cases same
    have unchanged : (UInt64.ofNat bits).toNat = bits := UInt64.toNat_ofNat_of_lt' fits
    exact ⟨trivial, by rw [integerBytes, UInt64.toUInt64_toInt64, unchanged]⟩
  · rintro ⟨-, rfl⟩
    refine ⟨n.toUInt64.toNat, rest, ⟨n.toUInt64.toNat_lt, rfl⟩, ?_⟩
    rw [UInt64.ofNat_toNat]
    rfl

theorem exact_readDouble : Exact readDouble doubleBytes (fun _ => True) := by
  intro bytes d rest
  simp only [readDouble, Option.bind_eq_bind, Option.bind_eq_some_iff, Prod.exists,
    exact_readNumber 8 _ _ _]
  constructor
  · rintro ⟨bits, _, ⟨fits, rfl⟩, same⟩
    cases same
    have unchanged : (UInt64.ofNat bits).toNat = bits := UInt64.toNat_ofNat_of_lt' fits
    exact ⟨trivial, by rw [doubleBytes, unchanged]⟩
  · rintro ⟨-, rfl⟩
    refine ⟨d.bits.toNat, rest, ⟨d.bits.toNat_lt, rfl⟩, ?_⟩
    rw [UInt64.ofNat_toNat]
    rfl

section Composition

variable {α β : Type} {reader : Reader α} {write : α → Bytes} {admitted : α → Prop}

/-- What is read and then wrapped is the wrapping of something written. -/
theorem Exact.map_eq_some_iff (exact : Exact reader write admitted) {wrap : α → β}
    {bytes : Bytes} {b : β} {rest : Bytes} :
    ((reader bytes).map fun (a, after) => (wrap a, after)) = some (b, rest) ↔
      ∃ a, admitted a ∧ bytes = write a ++ rest ∧ wrap a = b := by
  rw [Option.map_eq_some_iff]
  constructor
  · rintro ⟨⟨a, after⟩, read, same⟩
    cases same
    obtain ⟨admits, rfl⟩ := (exact _ _ _).1 read
    exact ⟨a, admits, rfl, rfl⟩
  · rintro ⟨a, admits, rfl, rfl⟩
    exact ⟨(a, rest), (exact _ _ _).2 ⟨admits, rfl⟩, rfl⟩

theorem Exact.pair (exact : Exact reader write admitted) {second : Reader β}
    {writeSecond : β → Bytes} {admittedSecond : β → Prop}
    (exactSecond : Exact second writeSecond admittedSecond) :
    Exact (readPair reader second) (fun pair => write pair.1 ++ writeSecond pair.2)
      (fun pair => admitted pair.1 ∧ admittedSecond pair.2) := by
  intro bytes pair rest
  simp only [readPair, Option.bind_eq_bind, Option.bind_eq_some_iff, Prod.exists,
    exact _ _ _, exactSecond _ _ _]
  constructor
  · rintro ⟨_, _, ⟨admits, rfl⟩, _, _, ⟨admitsSecond, rfl⟩, same⟩
    cases same
    exact ⟨⟨admits, admitsSecond⟩, (List.append_assoc _ _ _).symm⟩
  · rintro ⟨⟨admits, admitsSecond⟩, rfl⟩
    exact ⟨pair.1, writeSecond pair.2 ++ rest, ⟨admits, List.append_assoc _ _ _⟩,
      pair.2, rest, ⟨admitsSecond, rfl⟩, rfl⟩

theorem Exact.scored (exact : Exact reader write admitted) :
    Exact (readPair reader readDouble) (fun pair => write pair.1 ++ doubleBytes pair.2)
      (fun pair => admitted pair.1) := by
  intro bytes pair rest
  simpa using exact.pair exact_readDouble bytes pair rest

theorem Exact.many (exact : Exact reader write admitted) (count : Nat) :
    Exact (readMany reader count) (List.flatMap write)
      (fun items => items.length = count ∧ ∀ item ∈ items, admitted item) := by
  induction count with
  | zero =>
    intro bytes items rest
    constructor
    · intro read
      cases read
      exact ⟨⟨rfl, by simp⟩, rfl⟩
    · rintro ⟨⟨none, -⟩, rfl⟩
      rw [List.length_eq_zero_iff] at none
      subst none
      rfl
  | succ count ih =>
    intro bytes items rest
    simp only [readMany, Option.bind_eq_bind, Option.bind_eq_some_iff, Prod.exists,
      exact _ _ _, ih _ _ _]
    constructor
    · rintro ⟨first, _, ⟨admits, rfl⟩, others, _, ⟨⟨rfl, admitsOthers⟩, rfl⟩, same⟩
      cases same
      refine ⟨⟨rfl, ?_⟩, by rw [List.flatMap_cons, List.append_assoc]⟩
      exact List.forall_mem_cons.2 ⟨admits, admitsOthers⟩
    · rintro ⟨⟨length, admits⟩, rfl⟩
      cases items with
      | nil => cases length
      | cons first others =>
        obtain ⟨admitsFirst, admitsOthers⟩ := List.forall_mem_cons.1 admits
        refine ⟨first, others.flatMap write ++ rest, ⟨admitsFirst, ?_⟩, others, rest,
          ⟨⟨Nat.succ.inj length, admitsOthers⟩, rfl⟩, rfl⟩
        rw [List.flatMap_cons, List.append_assoc]

theorem Exact.list (exact : Exact reader write admitted) :
    Exact (readList reader) (fun items => lengthBytes items.length ++ items.flatMap write)
      (fun items => items.length < Text.wordBound ∧ ∀ item ∈ items, admitted item) := by
  intro bytes items rest
  simp only [readList, Option.bind_eq_bind, Option.bind_eq_some_iff, Prod.exists,
    exact_readNumber 8 _ _ _, exact.many _ _ _ _]
  constructor
  · rintro ⟨_, _, ⟨fits, rfl⟩, ⟨rfl, admits⟩, rfl⟩
    exact ⟨⟨fits, admits⟩, by rw [lengthBytes, List.append_assoc]⟩
  · rintro ⟨⟨fits, admits⟩, rfl⟩
    exact ⟨items.length, items.flatMap write ++ rest,
      ⟨fits, by rw [lengthBytes, List.append_assoc]⟩, ⟨rfl, admits⟩, rfl⟩

end Composition

/-! ## Values -/

theorem itemsBody_eq_flatMap (items : List Value) : itemsBody items = items.flatMap body := by
  induction items with
  | nil => rfl
  | cons item items ih => rw [itemsBody, ih, List.flatMap_cons]

theorem scoredBody_eq_flatMap (members : List (Value × Double)) :
    scoredBody members = members.flatMap fun pair => body pair.1 ++ doubleBytes pair.2 := by
  induction members with
  | nil => rfl
  | cons member members ih => rw [scoredBody, ih, List.flatMap_cons]

theorem fieldsBody_eq_flatMap (fields : List (Value × Value)) :
    fieldsBody fields = fields.flatMap fun pair => body pair.1 ++ body pair.2 := by
  induction fields with
  | nil => rfl
  | cons field fields ih => rw [fieldsBody, ih, List.flatMap_cons]

/-- The number of the kind of a value in its encoding. -/
def kindNumber : Value → Nat
  | null => 0
  | boolean _ => 1
  | integer _ => 2
  | double _ => 3
  | string _ => 4
  | byteArray _ => 5
  | array _ => 6
  | set _ => 7
  | scoredSet _ => 8
  | hash _ => 9
  | json _ => 10
  | graph => 11
  | searchIndex => 12
  | searchTerm => 13

/-- What follows the number of the kind in the encoding of a value. -/
def contents : Value → Bytes
  | boolean value => [if value then 1 else 0]
  | integer value => integerBytes value
  | double value => doubleBytes value
  | string text => textBytes text
  | byteArray bytes => lengthBytes bytes.length ++ bytes
  | array items => lengthBytes items.length ++ items.flatMap body
  | set members => lengthBytes members.length ++ members.flatMap body
  | scoredSet members =>
    lengthBytes members.length ++ members.flatMap fun pair => body pair.1 ++ doubleBytes pair.2
  | hash fields =>
    lengthBytes fields.length ++ fields.flatMap fun pair => body pair.1 ++ body pair.2
  | json text => textBytes text
  | _ => []

theorem kindNumber_lt (value : Value) : value.kindNumber < Nat.pow 256 4 := by
  have small : value.kindNumber ≤ 13 := by cases value <;> simp [kindNumber]
  exact Nat.lt_of_le_of_lt small (by decide)

theorem body_eq (value : Value) : body value = tagBytes value.kindNumber ++ value.contents := by
  cases value <;>
    simp [body, kindNumber, contents, itemsBody_eq_flatMap, scoredBody_eq_flatMap,
      fieldsBody_eq_flatMap]

/-- The lengths in a value itself are words, and the values in it are admitted. -/
def Admits (admitted : Value → Prop) : Value → Prop
  | string text => (Text.encode text).length < Text.wordBound
  | json text => (Text.encode text).length < Text.wordBound
  | byteArray bytes => bytes.length < Text.wordBound
  | array items => items.length < Text.wordBound ∧ ∀ item ∈ items, admitted item
  | set members => members.length < Text.wordBound ∧ ∀ member ∈ members, admitted member
  | scoredSet members => members.length < Text.wordBound ∧ ∀ member ∈ members, admitted member.1
  | hash fields =>
    fields.length < Text.wordBound ∧ ∀ field ∈ fields, admitted field.1 ∧ admitted field.2
  | _ => True

section Contents

variable {inner : Reader Value} {admitted : Value → Prop}

theorem readContents_sound (exact : Exact inner body admitted) {tag : Nat} {bytes : Bytes}
    {value : Value} {rest : Bytes} (read : readContents inner tag bytes = some (value, rest)) :
    value.kindNumber = tag ∧ value.Admits admitted ∧ bytes = value.contents ++ rest := by
  unfold readContents at read
  split at read
  · cases read
    exact ⟨rfl, trivial, rfl⟩
  · split at read
    · cases read
      exact ⟨rfl, trivial, rfl⟩
    · cases read
      exact ⟨rfl, trivial, rfl⟩
    · cases read
  · obtain ⟨n, -, rfl, rfl⟩ := exact_readInteger.map_eq_some_iff.1 read
    exact ⟨rfl, trivial, rfl⟩
  · obtain ⟨d, -, rfl, rfl⟩ := exact_readDouble.map_eq_some_iff.1 read
    exact ⟨rfl, trivial, rfl⟩
  · obtain ⟨text, short, rfl, rfl⟩ := exact_readText.map_eq_some_iff.1 read
    exact ⟨rfl, short, rfl⟩
  · obtain ⟨block, short, rfl, rfl⟩ := exact_readBlock.map_eq_some_iff.1 read
    exact ⟨rfl, short, rfl⟩
  · obtain ⟨items, admits, rfl, rfl⟩ := exact.list.map_eq_some_iff.1 read
    exact ⟨rfl, admits, rfl⟩
  · obtain ⟨members, admits, rfl, rfl⟩ := exact.list.map_eq_some_iff.1 read
    exact ⟨rfl, admits, rfl⟩
  · obtain ⟨members, admits, rfl, rfl⟩ := exact.scored.list.map_eq_some_iff.1 read
    exact ⟨rfl, admits, rfl⟩
  · obtain ⟨fields, admits, rfl, rfl⟩ := (exact.pair exact).list.map_eq_some_iff.1 read
    exact ⟨rfl, admits, rfl⟩
  · obtain ⟨text, short, rfl, rfl⟩ := exact_readText.map_eq_some_iff.1 read
    exact ⟨rfl, short, rfl⟩
  · cases read
    exact ⟨rfl, trivial, rfl⟩
  · cases read
    exact ⟨rfl, trivial, rfl⟩
  · cases read
    exact ⟨rfl, trivial, rfl⟩
  · cases read

theorem readContents_complete (exact : Exact inner body admitted) (value : Value)
    (admits : value.Admits admitted) (rest : Bytes) :
    readContents inner value.kindNumber (value.contents ++ rest) = some (value, rest) := by
  cases value with
  | null => rfl
  | boolean value => cases value <;> rfl
  | integer value =>
    rw [kindNumber, contents, readContents, exact_readInteger.map_eq_some_iff]
    exact ⟨value, trivial, rfl, rfl⟩
  | double value =>
    rw [kindNumber, contents, readContents, exact_readDouble.map_eq_some_iff]
    exact ⟨value, trivial, rfl, rfl⟩
  | string text =>
    rw [kindNumber, contents, readContents, exact_readText.map_eq_some_iff]
    exact ⟨text, admits, rfl, rfl⟩
  | byteArray bytes =>
    rw [kindNumber, contents, readContents, exact_readBlock.map_eq_some_iff]
    exact ⟨bytes, admits, rfl, rfl⟩
  | array items =>
    rw [kindNumber, contents, readContents, exact.list.map_eq_some_iff]
    exact ⟨items, admits, rfl, rfl⟩
  | set members =>
    rw [kindNumber, contents, readContents, exact.list.map_eq_some_iff]
    exact ⟨members, admits, rfl, rfl⟩
  | scoredSet members =>
    rw [kindNumber, contents, readContents, exact.scored.list.map_eq_some_iff]
    exact ⟨members, admits, rfl, rfl⟩
  | hash fields =>
    rw [kindNumber, contents, readContents, (exact.pair exact).list.map_eq_some_iff]
    exact ⟨fields, admits, rfl, rfl⟩
  | json text =>
    rw [kindNumber, contents, readContents, exact_readText.map_eq_some_iff]
    exact ⟨text, admits, rfl, rfl⟩
  | graph => rfl
  | searchIndex => rfl
  | searchTerm => rfl

end Contents

/-- A value nests at most so deep, and all its lengths are words. -/
def Within : Nat → Value → Prop
  | 0, _ => False
  | depth + 1, value => value.Admits (Within depth)

theorem exact_readWithin (depth : Nat) : Exact (readWithin depth) body (Within depth) := by
  induction depth with
  | zero =>
    intro bytes value rest
    simp [readWithin, Within]
  | succ depth ih =>
    intro bytes value rest
    simp only [readWithin, Option.bind_eq_bind, Option.bind_eq_some_iff, Prod.exists,
      exact_readNumber 4 _ _ _]
    constructor
    · rintro ⟨_, _, ⟨-, rfl⟩, read⟩
      obtain ⟨rfl, admits, rfl⟩ := readContents_sound ih read
      exact ⟨admits, by rw [body_eq, tagBytes, List.append_assoc]⟩
    · rintro ⟨admits, rfl⟩
      exact ⟨value.kindNumber, value.contents ++ rest,
        ⟨value.kindNumber_lt, by rw [body_eq, tagBytes, List.append_assoc]⟩,
        readContents_complete ih value admits rest⟩

theorem Within.isStorable {depth : Nat} {value : Value} (within : Within depth value) :
    value.IsStorable := by
  induction depth generalizing value with
  | zero => cases within
  | succ depth ih =>
    cases value with
    | null => exact .null
    | boolean value => exact .boolean value
    | integer value => exact .integer value
    | double value => exact .double value
    | string text => exact .string within
    | byteArray bytes => exact .byteArray within
    | array items => exact .array within.1 fun item mem => ih (within.2 item mem)
    | set members => exact .set within.1 fun member mem => ih (within.2 member mem)
    | scoredSet members => exact .scoredSet within.1 fun member mem => ih (within.2 member mem)
    | hash fields =>
      exact .hash within.1 (fun field mem => ih (within.2 field mem).1)
        fun field mem => ih (within.2 field mem).2
    | json text => exact .json within
    | graph => exact .graph
    | searchIndex => exact .searchIndex
    | searchTerm => exact .searchTerm

theorem length_body (value : Value) : (body value).length = 4 + value.contents.length := by
  rw [body_eq, List.length_append, tagBytes, length_littleEndian]

theorem length_le_of_mem {α : Type} (write : α → Bytes) {items : List α} {item : α}
    (mem : item ∈ items) : (write item).length ≤ (items.flatMap write).length := by
  rw [List.flatMap_def]
  exact (List.sublist_flatten_of_mem (List.mem_map_of_mem mem)).length_le

/-- The values directly in a value. -/
def parts : Value → List Value
  | array items => items
  | set members => members
  | scoredSet members => members.map Prod.fst
  | hash fields => fields.flatMap fun field => [field.1, field.2]
  | _ => []

/-- Every level of nesting takes up room. -/
theorem length_body_lt_of_mem_parts {inner outer : Value} (mem : inner ∈ outer.parts) :
    (body inner).length < (body outer).length := by
  rw [length_body outer]
  cases outer with
  | array items =>
    have room : _ ≤ (items.flatMap body).length := length_le_of_mem body mem
    rw [contents, List.length_append]
    omega
  | set members =>
    have room : _ ≤ (members.flatMap body).length := length_le_of_mem body mem
    rw [contents, List.length_append]
    omega
  | scoredSet members =>
    obtain ⟨member, memberMem, rfl⟩ := List.mem_map.1 mem
    have room := length_le_of_mem (fun pair => body pair.1 ++ doubleBytes pair.2) memberMem
    rw [List.length_append] at room
    rw [contents, List.length_append]
    omega
  | hash fields =>
    obtain ⟨field, fieldMem, innerMem⟩ := List.mem_flatMap.1 mem
    have room := length_le_of_mem (fun pair => body pair.1 ++ body pair.2) fieldMem
    rw [List.length_append] at room
    rw [contents, List.length_append]
    rw [List.mem_cons, List.mem_singleton] at innerMem
    rcases innerMem with rfl | rfl <;> omega
  | _ => cases mem

/-- So the length of an encoding bounds the depth. -/
theorem IsStorable.within {value : Value} (storable : value.IsStorable) {depth : Nat}
    (deep : (body value).length ≤ depth) : Within depth value := by
  induction depth generalizing value with
  | zero =>
    rw [length_body] at deep
    omega
  | succ depth ih =>
    have inner : ∀ part ∈ value.parts, part.IsStorable → Within depth part := by
      intro part mem storable
      have shorter := length_body_lt_of_mem_parts mem
      exact ih storable (by omega)
    cases storable with
    | null => trivial
    | boolean value => trivial
    | integer value => trivial
    | double value => trivial
    | string short => exact short
    | byteArray short => exact short
    | array short storable => exact ⟨short, fun item mem => inner item mem (storable item mem)⟩
    | set short storable => exact ⟨short, fun member mem => inner member mem (storable member mem)⟩
    | scoredSet short storable =>
      refine ⟨short, fun member mem => inner _ (List.mem_map_of_mem mem) (storable member mem)⟩
    | hash short storable storableValue =>
      refine ⟨short, fun field mem => ⟨inner _ ?_ (storable field mem),
        inner _ ?_ (storableValue field mem)⟩⟩
      · exact List.mem_flatMap.2 ⟨field, mem, List.mem_cons_self⟩
      · exact List.mem_flatMap.2 ⟨field, mem, List.mem_cons_of_mem _ List.mem_cons_self⟩
    | json short => exact short
    | graph => trivial
    | searchIndex => trivial
    | searchTerm => trivial

theorem exact_read : Exact read body IsStorable := by
  intro bytes value rest
  rw [read, exact_readWithin]
  constructor
  · rintro ⟨within, written⟩
    exact ⟨within.isStorable, written⟩
  · rintro ⟨storable, rfl⟩
    refine ⟨storable.within ?_, rfl⟩
    rw [List.length_append]
    omega

/-! ## Stored bytes -/

/-- What is decoded from marked bytes is what is read behind the mark. -/
theorem decode_mark_cons (rest : Bytes) :
    decode (mark :: rest) = ((read rest).map Prod.fst).getD (ofBytes (mark :: rest)) := by
  rw [decode, if_pos rfl]
  cases read rest <;> rfl

theorem decode_encode_append {value : Value} (storable : value.IsStorable) (trailing : Bytes) :
    decode (encode value ++ trailing) = value := by
  have complete : read (body value ++ trailing) = some (value, trailing) :=
    (exact_read _ _ _).2 ⟨storable, rfl⟩
  rw [encode, List.cons_append, decode_mark_cons, complete]
  rfl

theorem decode_encode {value : Value} (storable : value.IsStorable) :
    decode (encode value) = value := by
  rw [← List.append_nil (encode value)]
  exact decode_encode_append storable []

theorem decode_of_encode_isPrefix {value : Value} {raw : Bytes} (storable : value.IsStorable)
    (written : encode value <+: raw) : decode raw = value := by
  rcases written with ⟨trailing, rfl⟩
  exact decode_encode_append storable trailing

/-- Bytes at which no value is written stand for themselves. -/
theorem decode_of_forall_not_isPrefix {raw : Bytes}
    (unwritten : ∀ value : Value, value.IsStorable → ¬ encode value <+: raw) :
    decode raw = ofBytes raw := by
  cases raw with
  | nil => rfl
  | cons first rest =>
    by_cases marked : first = mark
    · subst marked
      rw [decode_mark_cons]
      cases readRest : read rest with
      | none => rfl
      | some found =>
        rcases found with ⟨value, trailing⟩
        obtain ⟨storable, rfl⟩ := (exact_read _ _ _).1 readRest
        exact absurd (List.prefix_append (encode value) trailing) (unwritten value storable)
    · rw [decode, if_neg marked]

theorem ofBytes_encode (text : String) : ofBytes (Text.encode text) = string text := by
  rw [ofBytes, Text.decode?_encode]

theorem ofBytes_of_forall_ne {bytes : Bytes} (malformed : ∀ text, bytes ≠ Text.encode text) :
    ofBytes bytes = byteArray bytes := by
  unfold ofBytes
  split
  · next text decoded => exact absurd (Text.encode_of_decode? decoded).symm (malformed text)
  · rfl

theorem isStorable_ofBytes {raw : Bytes} (short : raw.length < Text.wordBound) :
    (ofBytes raw).IsStorable := by
  unfold ofBytes
  split
  · next text decoded =>
    refine .string ?_
    rwa [Text.encode_of_decode? decoded]
  · exact .byteArray short

/-- What is decoded can be stored again, unless no word can count the bytes. -/
theorem isStorable_decode {raw : Bytes} (short : raw.length < Text.wordBound) :
    (decode raw).IsStorable := by
  cases raw with
  | nil => exact isStorable_ofBytes short
  | cons first rest =>
    by_cases marked : first = mark
    · subst marked
      rw [decode_mark_cons]
      cases readRest : read rest with
      | none => exact isStorable_ofBytes short
      | some found => exact ((exact_read _ _ _).1 readRest).1
    · rw [decode, if_neg marked]
      exact isStorable_ofBytes short

/-- No text begins with the mark, which leads no character in UTF-8. -/
theorem encode_text_ne_mark_cons (text : String) (rest : Bytes) :
    Text.encode text ≠ mark :: rest := by
  intro marked
  rw [← String.ofList_toList (s := text), Text.encode_ofList] at marked
  cases spelled : text.toList with
  | nil =>
    rw [spelled] at marked
    cases marked
  | cons c cs =>
    have leads := UInt8.isUTF8FirstByte_getElem_zero_utf8EncodeChar (c := c)
    rw [spelled, List.flatMap_cons, Text.encodeChar] at marked
    cases bytes : String.utf8EncodeChar c with
    | nil => exact absurd bytes String.utf8EncodeChar_ne_nil
    | cons first others =>
      rw [bytes, List.cons_append] at marked
      obtain ⟨rfl, -⟩ := List.cons.inj marked
      simp only [bytes, List.getElem_cons_zero] at leads
      exact absurd leads (by decide)

theorem decode_encode_text (text : String) : decode (Text.encode text) = string text := by
  rw [← ofBytes_encode]
  apply decode_of_forall_not_isPrefix
  intro value _ written
  rcases written with ⟨trailing, same⟩
  exact encode_text_ne_mark_cons text _ same.symm

/-- The stored form is decoded exactly: a value is found wherever it is
written, it is the only one that is written there, and other bytes stand for
themselves, as every text does. -/
theorem decode_exact :
    (∀ value : Value, value.IsStorable → ∀ trailing, decode (encode value ++ trailing) = value) ∧
    (∀ (raw : Bytes) (value : Value), value.IsStorable → encode value <+: raw →
      decode raw = value ∧
        ∀ other : Value, other.IsStorable → encode other <+: raw → other = value) ∧
    (∀ raw : Bytes, (∀ value : Value, value.IsStorable → ¬ encode value <+: raw) →
      decode raw = ofBytes raw ∧
        (∀ text, raw = Text.encode text → decode raw = string text) ∧
        ((∀ text, raw ≠ Text.encode text) → decode raw = byteArray raw)) ∧
    ∀ text, decode (Text.encode text) = string text := by
  refine ⟨fun value => decode_encode_append, ?_, ?_, decode_encode_text⟩
  · intro raw value storable written
    have found : decode raw = value := decode_of_encode_isPrefix storable written
    refine ⟨found, ?_⟩
    intro other otherStorable otherWritten
    rw [← found, decode_of_encode_isPrefix otherStorable otherWritten]
  · intro raw unwritten
    have itself : decode raw = ofBytes raw := decode_of_forall_not_isPrefix unwritten
    refine ⟨itself, ?_, ?_⟩
    · rintro text rfl
      exact decode_encode_text text
    · intro malformed
      rw [itself, ofBytes_of_forall_ne malformed]

/-- A set with a repeated member and a NaN in a hash is found in front of other
bytes, it alone is written there, and a lone mark stands for itself. -/
theorem decode_exact_nested_set_lone_mark :
    let nested := set [hash [(null, double ⟨0x7FF8000000000001⟩)], string "", string ""]
    decode (encode nested ++ [0xFE, 0x00]) = nested ∧
      (∀ other : Value, other.IsStorable → encode other <+: encode nested ++ [0xFE, 0x00] →
        other = nested) ∧
      decode [0xFE] = byteArray [0xFE] := by
  intro nested
  have storable : nested.IsStorable := by
    refine .set (by decide) (List.forall_mem_cons.2 ⟨?_, List.forall_mem_cons.2 ⟨?_, ?_⟩⟩)
    · refine .hash (by decide) (List.forall_mem_singleton.2 .null) ?_
      exact List.forall_mem_singleton.2 (.double _)
    · exact .string (by decide)
    · exact List.forall_mem_singleton.2 (.string (by decide))
  have unwritten : ∀ value : Value, value.IsStorable → ¬ encode value <+: [0xFE] := by
    intro value _ written
    have short := written.length_le
    rw [encode, List.length_cons, length_body, List.length_singleton] at short
    omega
  have malformed : ∀ text, [0xFE] ≠ Text.encode text :=
    fun text same => encode_text_ne_mark_cons text [] same.symm
  exact ⟨decode_exact.1 nested storable [0xFE, 0x00],
    (decode_exact.2.1 _ nested storable (List.prefix_append _ _)).2,
    (decode_exact.2.2.1 [0xFE] unwritten).2.2 malformed⟩

end KeyConsole.Value
