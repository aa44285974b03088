import KeyConsole.Proofs.CommandLine.Spelling
import KeyConsole.Proofs.Double.Word
import KeyConsole.Proofs.Text.Lines

/-!
# Leaves of a value on a command line

A value that is written for a command line is cut into its leaves again.  Each
leaf spells one token, whichever of the bare, the quoted and the hex form is
chosen for it, and the delimiter between the members of a collection is blank,
so that they spell their leaves one after the other.
-/

namespace KeyConsole.Value

open KeyConsole.CommandLine

mutual

/-- The leaves of a value in turn: numbers and truth values as their plain
texts, texts and byte arrays as their bytes. -/
def leaves : Value → List Bytes
  | null => []
  | boolean value => [Text.encode (if value then "true" else "false")]
  | integer value => [Text.encode (Text.integer value.toInt)]
  | double value => [Text.encode value.text]
  | string text => [Text.encode text]
  | json text => [Text.encode text]
  | byteArray bytes => [bytes]
  | array items => itemsLeaves items
  | set members => itemsLeaves members
  | scoredSet members => scoredLeaves members
  | hash fields => fieldsLeaves fields
  | graph => []
  | searchIndex => []
  | searchTerm => []

/-- The leaves of values in turn. -/
def itemsLeaves : List Value → List Bytes
  | [] => []
  | item :: items => leaves item ++ itemsLeaves items

/-- The leaves of scored members in turn, each score behind its member. -/
def scoredLeaves : List (Value × Double) → List Bytes
  | [] => []
  | (member, score) :: members => leaves member ++ Text.encode score.text :: scoredLeaves members

/-- The leaves of fields in turn, each value behind its field. -/
def fieldsLeaves : List (Value × Value) → List Bytes
  | [] => []
  | (field, value) :: fields => leaves field ++ leaves value ++ fieldsLeaves fields

end

/-! ## Leaves that are words -/

theorem isBare_of_isDigit {c : Char} (digit : c.isDigit = true) : IsBare c := by
  refine ⟨Text.isBlank_of_isDigit digit, ?_, ?_⟩
  · rintro rfl
    exact absurd digit (by decide)
  · rintro rfl
    exact absurd digit (by decide)

theorem isBare_of_mem {cs : List Char} {c : Char} (mem : c ∈ cs)
    (checked : cs.all (fun c => !Text.isBlank c && c != '"' && c != '\'') = true) : IsBare c := by
  have bare := List.all_eq_true.1 checked c mem
  simpa [IsBare, and_assoc] using bare

theorem isBare_of_isWordChar {c : Char} (word : Double.IsWordChar c) : IsBare c := by
  rcases word with (digit | rfl) | letter
  · exact isBare_of_isDigit digit
  · exact ⟨by decide, by decide, by decide⟩
  · exact isBare_of_mem letter (by decide)

theorem spells_word {text : String} (nonempty : text.toList ≠ [])
    (bare : ∀ c ∈ text.toList, IsBare c) : Spells text.toList [Text.encode text] := by
  have encoded : Text.encode text = text.toList.flatMap Text.encodeChar := by
    rw [← Text.encode_ofList, String.ofList_toList]
  rw [encoded]
  exact spells_bare nonempty bare

/-- What is written without quotes is a word of bare characters. -/
theorem bare_of_isBareToken {text : String} (bare : isBareToken text = true) :
    text.toList ≠ [] ∧ ∀ c ∈ text.toList, IsBare c := by
  simp only [isBareToken, Bool.and_eq_true, Bool.not_eq_true', List.all_eq_true,
    bne_iff_ne] at bare
  rcases bare with ⟨nonempty, bareChars⟩
  constructor
  · intro empty
    rw [String.toList_eq_nil_iff.1 empty] at nonempty
    cases nonempty
  · intro c mem
    obtain ⟨⟨notBlank, notDouble⟩, notSingle⟩ := bareChars c mem
    exact ⟨notBlank, notDouble, notSingle⟩

theorem spells_boolean (value : Bool) :
    Spells (if value then "true" else "false").toList
      [Text.encode (if value then "true" else "false")] := by
  cases value with
  | false => exact spells_word (by decide) fun c mem => isBare_of_mem mem (by decide)
  | true => exact spells_word (by decide) fun c mem => isBare_of_mem mem (by decide)

theorem spells_integer (n : Int) :
    Spells (Text.integer n).toList [Text.encode (Text.integer n)] := by
  have digits : ∀ c ∈ Nat.toDigits 10 n.natAbs, IsBare c := fun c mem =>
    isBare_of_isDigit (Nat.isDigit_of_mem_toDigits (by decide) (by decide) mem)
  have spelled : (Text.natural n.natAbs).toList = Nat.toDigits 10 n.natAbs := String.toList_ofList
  unfold Text.integer
  split
  · apply spells_word
    · simp
    · rw [String.toList_append, spelled]
      exact List.forall_mem_cons.2 ⟨⟨by decide, by decide, by decide⟩, digits⟩
  · apply spells_word
    · rw [spelled]
      exact Nat.toDigits_ne_nil
    · rw [spelled]
      exact digits

theorem spells_double (d : Double) : Spells d.text.toList [Text.encode d.text] := by
  have spelled : d.text.toList = d.textChars := String.toList_ofList
  apply spells_word
  · rw [spelled]
    exact d.textChars_ne_nil
  · rw [spelled]
    exact fun c mem => isBare_of_isWordChar (Double.isWordChar_of_mem_textChars mem)

/-- A text is one token, whether it is quoted or not. -/
theorem spells_tokenText (text : String) : Spells (tokenText text).toList [Text.encode text] := by
  unfold tokenText
  split
  · next bare =>
    obtain ⟨nonempty, bareChars⟩ := bare_of_isBareToken bare
    exact spells_word nonempty bareChars
  · exact spells_quote text

/-! ## Collections -/

/-- The delimiters that separate tokens: blank and not empty. -/
def Separates (delimiter : String) : Prop :=
  delimiter ≠ "" ∧ Text.isBlankText delimiter = true

section Collections

variable {delimiter : String}

theorem Separates.spells_append (separates : Separates delimiter) {first second : String}
    {tokens others : List Bytes} (spells : Spells first.toList tokens)
    (spellsOthers : Spells second.toList others) :
    Spells (first ++ delimiter ++ second).toList (tokens ++ others) := by
  rcases separates with ⟨nonempty, blank⟩
  rw [String.toList_append, String.toList_append]
  refine spells.append (List.all_eq_true.1 blank) ?_ spellsOthers
  intro empty
  exact nonempty (String.toList_eq_nil_iff.1 empty)

theorem separates_space : Separates " " :=
  ⟨by decide, by decide⟩

theorem Separates.spells_join (separates : Separates delimiter) {α : Type} {text : α → String}
    {tokens : α → List Bytes} {items : List α}
    (spells : ∀ item ∈ items, Spells (text item).toList (tokens item)) :
    Spells (Text.join delimiter (items.map text)).toList (items.flatMap tokens) := by
  induction items with
  | nil => exact spells_nil
  | cons item items ih =>
    obtain ⟨spellsItem, spellsItems⟩ := List.forall_mem_cons.1 spells
    cases items with
    | nil => simpa [Text.join] using spellsItem
    | cons next items =>
      have joined := separates.spells_append spellsItem (ih spellsItems)
      simpa [Text.join] using joined

end Collections

theorem renderItems_eq_map (delimiter : String) (style : Style) (items : List Value) :
    renderItems delimiter style items = items.map (render delimiter style) := by
  induction items with
  | nil => rfl
  | cons item items ih => rw [renderItems, ih, List.map_cons]

theorem renderScored_eq_map (delimiter : String) (style : Style) (members : List (Value × Double)) :
    renderScored delimiter style members
      = members.map fun member => render delimiter style member.1 ++ " " ++ member.2.text := by
  induction members with
  | nil => rfl
  | cons member members ih => rw [renderScored, ih, List.map_cons]

theorem renderFields_eq_map (delimiter : String) (style : Style) (fields : List (Value × Value)) :
    renderFields delimiter style fields
      = fields.map fun field =>
          render delimiter style field.1 ++ " " ++ render delimiter style field.2 := by
  induction fields with
  | nil => rfl
  | cons field fields ih => rw [renderFields, ih, List.map_cons]

theorem itemsLeaves_eq_flatMap (items : List Value) : itemsLeaves items = items.flatMap leaves := by
  induction items with
  | nil => rfl
  | cons item items ih => rw [itemsLeaves, ih, List.flatMap_cons]

theorem scoredLeaves_eq_flatMap (members : List (Value × Double)) :
    scoredLeaves members
      = members.flatMap fun member => leaves member.1 ++ [Text.encode member.2.text] := by
  induction members with
  | nil => rfl
  | cons member members ih =>
    rw [scoredLeaves, ih, List.flatMap_cons, List.append_assoc, List.singleton_append]

theorem fieldsLeaves_eq_flatMap (fields : List (Value × Value)) :
    fieldsLeaves fields = fields.flatMap fun field => leaves field.1 ++ leaves field.2 := by
  induction fields with
  | nil => rfl
  | cons field fields ih => rw [fieldsLeaves, ih, List.flatMap_cons]

/-! ## Values -/

theorem spells_render {delimiter : String} (separates : Separates delimiter) (value : Value) :
    Spells (render delimiter .command value).toList value.leaves := by
  induction value with
  | null => exact spells_nil
  | boolean value => exact spells_boolean value
  | integer value => exact spells_integer value.toInt
  | double value => exact spells_double value
  | string text => exact spells_tokenText text
  | byteArray bytes => exact spells_hexEscape bytes
  | array items ih =>
    rw [render, leaves, renderItems_eq_map, itemsLeaves_eq_flatMap]
    exact separates.spells_join ih
  | set members ih =>
    rw [render, leaves, renderItems_eq_map, itemsLeaves_eq_flatMap]
    exact separates.spells_join ih
  | scoredSet members ih =>
    rw [render, leaves, renderScored_eq_map, scoredLeaves_eq_flatMap]
    exact separates.spells_join fun member mem =>
      separates_space.spells_append (ih member mem) (spells_double member.2)
  | hash fields ih =>
    rw [render, leaves, renderFields_eq_map, fieldsLeaves_eq_flatMap]
    exact separates.spells_join fun field mem =>
      separates_space.spells_append (ih field mem).1 (ih field mem).2
  | json text => exact spells_tokenText text
  | graph => exact spells_nil
  | searchIndex => exact spells_nil
  | searchTerm => exact spells_nil

/-- Cutting the text of a value for a command line gives its leaves. -/
theorem tokens_render (value : Value) (delimiter : String) (nonempty : delimiter ≠ "")
    (blank : Text.isBlankText delimiter = true) :
    tokens (render delimiter .command value) = .ok value.leaves := by
  have spells := spells_render ⟨nonempty, blank⟩ value
  rw [tokens, spells.scan_eq_ok]
  rfl

/-- Empty texts and bytes are tokens, what renders as nothing is none, and the
delimiter may be any blank. -/
theorem tokens_render_nested_array :
    tokens (render "\u2003" .command
        (array [null, string "", hash [(byteArray [0xFF], string "a \"b\"\n")], graph,
          boolean true]))
      = .ok [[], [0xFF], [0x61, 0x20, 0x22, 0x62, 0x22, 0x0A], [0x74, 0x72, 0x75, 0x65]] := by
  exact tokens_render _ "\u2003" (by decide) (by decide)

end KeyConsole.Value
