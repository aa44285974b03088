import KeyConsole.Proofs.Text.Lines
import KeyConsole.ServerInfo

/-!
# Figures that are read back

The text of figures is cut into lines again when it is read.  Figures whose texts keep
to a line are read back as they are, and no others are: a text that does not keep to a
line cannot be found on one.
-/

namespace KeyConsole.ServerInfo

open Text (OnLine)

/-! ## The field on a line -/

/-- The field on a line of a text, if the line holds one. -/
def fieldOn? (line : String) : Option (String × String) :=
  let line := Text.trim line
  if !line.isEmpty && line.toList.head? != some '#' then field? line else none

theorem fields_eq_filterMap (text : String) :
    fields text = (Text.lines text).filterMap fieldOn? := by
  rw [fields, List.filterMap_filter, List.filterMap_map]
  rfl

/-- A text that can name a field. -/
def IsFieldName (name : String) : Prop :=
  ∀ c ∈ name.toList, Text.isBlank c = false ∧ c ≠ ':' ∧ c ≠ '#'

instance (name : String) : Decidable (IsFieldName name) :=
  decidable_of_iff (name.toList.all (fun c => !Text.isBlank c && c != ':' && c != '#') = true) <| by
    simp only [List.all_eq_true, Bool.and_eq_true, Bool.not_eq_true', bne_iff_ne, and_assoc]
    rfl

variable {name value : String}

theorem IsFieldName.onLine (isName : IsFieldName name) : OnLine name :=
  Text.onLine_of_visible fun c mem => (isName c mem).1

/-- A heading holds no field. -/
theorem fields_heading {heading : String} (onLine : OnLine heading)
    (bare : fieldOn? (String.ofList (Text.dropReturn heading.toList)) = none) {text : String}
    (isHeading : text = heading ++ "\n") (rest : String) : fields (text ++ rest) = fields rest := by
  rw [isHeading, fields_eq_filterMap, fields_eq_filterMap, Text.lines_lineFeed onLine.unbroken,
    List.filterMap_cons_none bare]

theorem fieldOn?_eq_field? {line : String}
    (first : ∃ c ∈ line.toList.head?, Text.isBlank c = false ∧ c ≠ '#')
    (last : ∀ c ∈ line.toList.getLast?, Text.isBlank c = false) :
    fieldOn? (String.ofList (Text.dropReturn line.toList)) = field? line := by
  obtain ⟨c, isFirst, visible, notHash⟩ := first
  have begins : line.toList.head? = some c := isFirst
  have trimmed : Text.trim line = line := by
    rw [Text.trim_eq_self_iff, Text.trimChars_eq_self_iff]
    refine ⟨?_, last⟩
    simpa [begins] using visible
  have nonempty : line.isEmpty = false := by
    rw [← Bool.not_eq_true, String.isEmpty_iff]
    rintro rfl
    cases begins
  rw [Text.dropReturn_eq_self last, String.ofList_toList, fieldOn?, trimmed]
  simp [nonempty, begins, notHash]

/-- A name and a value that keeps to a line are found on the line that they make. -/
theorem fieldOn?_of_isFieldName (isName : IsFieldName name) (onLine : OnLine value) :
    fieldOn? (String.ofList (Text.dropReturn (name ++ ":" ++ value).toList))
      = some (name, value) := by
  have spelled : (name ++ ":" ++ value).toList = name.toList ++ ':' :: value.toList := by simp
  have noColon : ':' ∉ name.toList := fun mem => (isName ':' mem).2.1 rfl
  have cut : Text.cutAt ':' (name ++ ":" ++ value).toList = some (name.toList, value.toList) :=
    Text.cutAt_eq_some_iff.2 ⟨noColon, spelled⟩
  have parts : field? (name ++ ":" ++ value) = some (name, value) := by
    rw [field?, cut]
    exact congrArg some (Prod.ext isName.onLine.trimmed onLine.trimmed)
  rw [← parts]
  apply fieldOn?_eq_field?
  · rw [spelled]
    cases begins : name.toList with
    | nil => exact ⟨':', rfl, by decide, by decide⟩
    | cons d ds =>
      obtain ⟨visible, _, notHash⟩ := isName d (by simp [begins])
      exact ⟨d, rfl, visible, notHash⟩
  · rw [spelled, List.getLast?_append_cons]
    exact Text.visible_getLast?_cons (by decide) onLine.visible_last

theorem fields_fieldLine (isName : IsFieldName name) (onLine : OnLine value) (rest : String) :
    fields (fieldLine name value ++ rest) = (name, value) :: fields rest := by
  have unbroken : ∀ c ∈ (name ++ ":" ++ value).toList, c ≠ '\n' := by
    simp only [String.toList_append, List.forall_mem_append]
    exact ⟨⟨isName.onLine.unbroken, by simp⟩, onLine.unbroken⟩
  rw [fieldLine, fields_eq_filterMap, fields_eq_filterMap, Text.lines_lineFeed unbroken,
    List.filterMap_cons_some (fieldOn?_of_isFieldName isName onLine)]

/-- A name and a value that can be written on a line. -/
structure IsField (name value : String) : Prop where
  isName : IsFieldName name
  onLine : OnLine value

/-- The lines of fields. -/
def fieldLines : List (String × String) → String
  | [] => ""
  | (name, value) :: others => fieldLine name value ++ fieldLines others

/-- Write the line of a field behind a text. -/
def write (text : String) (field : String × String) : String :=
  text ++ fieldLine field.1 field.2

theorem foldl_write (written : List (String × String)) (text : String) :
    written.foldl write text = text ++ fieldLines written := by
  induction written generalizing text with
  | nil => rw [List.foldl_nil, fieldLines, String.append_empty]
  | cons field others ih => rw [List.foldl_cons, ih, write, fieldLines, String.append_assoc]

theorem fields_fieldLines {written : List (String × String)}
    (areFields : ∀ field ∈ written, IsField field.1 field.2) (rest : String) :
    fields (fieldLines written ++ rest) = written ++ fields rest := by
  induction written with
  | nil => rw [fieldLines, String.empty_append, List.nil_append]
  | cons field others ih =>
    obtain ⟨isField, areFields⟩ := List.forall_mem_cons.1 areFields
    rw [fieldLines, String.append_assoc, fields_fieldLine isField.isName isField.onLine,
      ih areFields, List.cons_append]

theorem onLine_natural (n : Nat) : OnLine (Text.natural n) := by
  apply Text.onLine_of_visible
  have spelled : (Text.natural n).toList = Nat.toDigits 10 n := String.toList_ofList
  rw [spelled]
  exact fun c mem =>
      Text.isBlank_of_isDigit (Nat.isDigit_of_mem_toDigits (by decide) (by decide) mem)

/-- The value of a field keeps to a line, whatever the text is. -/
theorem onLine_of_mem_fields {text : String} (mem : (name, value) ∈ fields text) :
    OnLine value := by
  rw [fields_eq_filterMap, List.mem_filterMap] at mem
  obtain ⟨line, isLine, found⟩ := mem
  unfold fieldOn? at found
  dsimp only at found
  split at found
  · obtain ⟨⟨first, rest⟩, cut, isField⟩ := Option.map_eq_some_iff.1 found
    cases isField
    have split := (Text.cutAt_eq_some_iff.1 cut).2
    apply Text.onLine_ofList_trimChars
    intro c mem
    have inside : c ∈ (Text.trim line).toList := by
      rw [split]
      simp [mem]
    rw [Text.trim, String.toList_ofList] at inside
    exact Text.unbroken_of_mem_lines isLine c (Text.mem_of_mem_trimChars inside)
  · cases found

/-! ## Figures -/

/-- The texts among the figures. -/
def texts : ServerInfo → List String
  | memory f => [f.currentDatabase]
  | tableFile f => [f.filePath, f.currentDatabase]

/-- The numbers among the figures. -/
def counts : ServerInfo → List Nat
  | memory f =>
    [f.databases, f.keys, f.getOps, f.setOps, f.delOps, f.expiredKeys, f.usedMemory]
  | tableFile f => [f.fileSize, f.databases, f.keys]

/-- The fields that are written behind the first heading. -/
def serverFields : ServerInfo → List (String × String)
  | memory f =>
    [("backend", BackendKind.memory.name), ("databases", Text.natural f.databases),
      ("current_database", f.currentDatabase)]
  | tableFile f =>
    [("backend", BackendKind.tableFile.name), ("file_path", f.filePath),
      ("file_size", Text.natural f.fileSize), ("databases", Text.natural f.databases),
      ("current_database", f.currentDatabase)]

/-- The fields that are written behind the second heading. -/
def statsFields : ServerInfo → List (String × String)
  | memory f =>
    [("keys", Text.natural f.keys), ("get_ops", Text.natural f.getOps),
      ("set_ops", Text.natural f.setOps), ("del_ops", Text.natural f.delOps),
      ("expired_keys", Text.natural f.expiredKeys), ("used_memory", Text.natural f.usedMemory)]
  | tableFile f => [("keys", Text.natural f.keys)]

variable {info : ServerInfo}

theorem toText_eq (info : ServerInfo) :
    info.toText = "# Server\n" ++ (fieldLines info.serverFields
      ++ ("# Stats\n" ++ (fieldLines info.statsFields ++ ""))) := by
  have written : info.toText = info.statsFields.foldl write
      (info.serverFields.foldl write "# Server\n" ++ "# Stats\n") := by
    -- The text is written from the left, so it is this fold by definition.
    cases info <;> rfl
  rw [written, foldl_write, foldl_write]
  simp only [String.append_assoc, String.append_empty]

theorem isField_count {name : String} (isName : IsFieldName name) (n : Nat) :
    IsField name (Text.natural n) :=
  ⟨isName, onLine_natural n⟩

theorem isField_serverFields (onLine : ∀ text ∈ info.texts, OnLine text) :
    ∀ field ∈ info.serverFields, IsField field.1 field.2 := by
  cases info with
  | memory f =>
    simp only [texts, List.forall_mem_singleton] at onLine
    simp only [serverFields, List.forall_mem_cons]
    exact ⟨⟨by decide, by decide⟩, isField_count (by decide) _, ⟨by decide, onLine⟩, nofun⟩
  | tableFile f =>
    simp only [texts, List.forall_mem_cons] at onLine
    simp only [serverFields, List.forall_mem_cons]
    exact ⟨⟨by decide, by decide⟩, ⟨by decide, onLine.1⟩, isField_count (by decide) _,
      isField_count (by decide) _, ⟨by decide, onLine.2.1⟩, nofun⟩

theorem isField_statsFields (info : ServerInfo) :
    ∀ field ∈ info.statsFields, IsField field.1 field.2 := by
  cases info with
  | memory f =>
    simp only [statsFields, List.forall_mem_cons]
    exact ⟨isField_count (by decide) _, isField_count (by decide) _, isField_count (by decide) _,
      isField_count (by decide) _, isField_count (by decide) _, isField_count (by decide) _, nofun⟩
  | tableFile f =>
    simp only [statsFields, List.forall_mem_cons]
    exact ⟨isField_count (by decide) _, nofun⟩

/-- Figures whose texts keep to a line are written as fields that are read back. -/
theorem fields_toText (onLine : ∀ text ∈ info.texts, OnLine text) :
    fields info.toText = info.serverFields ++ info.statsFields := by
  have server (rest : String) : fields ("# Server\n" ++ rest) = fields rest :=
    @fields_heading "# Server" (by decide) (by decide) _ (by decide) rest
  have stats (rest : String) : fields ("# Stats\n" ++ rest) = fields rest :=
    @fields_heading "# Stats" (by decide) (by decide) _ (by decide) rest
  rw [toText_eq, server, fields_fieldLines (isField_serverFields onLine), stats,
    fields_fieldLines (isField_statsFields info)]
  exact congrArg _ (List.append_nil _)

/-- Figures whose texts keep to a line are read back from their text. -/
theorem ofText_toText (onLine : ∀ text ∈ info.texts, OnLine text)
    (fit : ∀ count ∈ info.counts, count < Text.wordBound) :
    ofText info.kind info.toText = .ok info := by
  cases info with
  | memory f =>
    simp only [counts, List.forall_mem_cons] at fit
    simp only [ofText, kind, fields_toText onLine, serverFields, statsFields]
    simp [MemoryFigures.read, number, Text.word?_natural, fit, Except.map, bind, Except.bind,
      pure, Except.pure]
  | tableFile f =>
    simp only [counts, List.forall_mem_cons] at fit
    simp only [ofText, kind, fields_toText onLine, serverFields, statsFields]
    simp [FileFigures.read, number, Text.word?_natural, fit, Except.map, bind, Except.bind,
      pure, Except.pure]

/-- What reading every field keeps, reading all of them keeps. -/
theorem foldlM_invariant {φ σ : Type} {read : σ → φ → Except Error σ} (property : σ → Prop)
    {fields : List φ} {first last : σ}
    (kept : ∀ field ∈ fields, ∀ before after, read before field = .ok after →
      property before → property after)
    (folded : fields.foldlM read first = .ok last) (holds : property first) : property last := by
  induction fields generalizing first with
  | nil =>
    cases folded
    exact holds
  | cons field fields ih =>
    obtain ⟨keptFirst, kept⟩ := List.forall_mem_cons.1 kept
    rw [List.foldlM_cons] at folded
    cases ran : read first field with
    | error cause =>
      rw [ran] at folded
      cases folded
    | ok between =>
      rw [ran] at folded
      exact ih kept folded (keptFirst first between ran holds)

theorem onLine_of_memoryRead {before after : MemoryFigures} (onLine : OnLine value)
    (read : before.read (name, value) = .ok after) (holds : OnLine before.currentDatabase) :
    OnLine after.currentDatabase := by
  unfold MemoryFigures.read at read
  cases counted : number name value <;> simp only [counted, Except.map] at read
  all_goals
    repeat' split at read
    all_goals cases read
    all_goals first | exact holds | exact onLine

theorem onLine_of_fileRead {before after : FileFigures} (onLine : OnLine value)
    (read : before.read (name, value) = .ok after)
    (holds : OnLine before.filePath ∧ OnLine before.currentDatabase) :
    OnLine after.filePath ∧ OnLine after.currentDatabase := by
  unfold FileFigures.read at read
  cases counted : number name value <;> simp only [counted, Except.map] at read
  all_goals
    repeat' split at read
    all_goals cases read
    all_goals first | exact holds | exact ⟨onLine, holds.2⟩ | exact ⟨holds.1, onLine⟩

theorem exists_of_map_eq_ok {α β : Type} {f : α → β} {read : Except Error α} {b : β}
    (mapped : read.map f = .ok b) : ∃ a, read = .ok a ∧ f a = b := by
  cases read with
  | error cause => cases mapped
  | ok a => exact ⟨a, rfl, Except.ok.inj mapped⟩

/-- What is read from any text are figures whose texts keep to a line. -/
theorem onLine_of_ofText {kind : BackendKind} {text : String}
    (read : ofText kind text = .ok info) : ∀ text ∈ info.texts, OnLine text := by
  cases kind with
  | memory =>
    obtain ⟨f, folded, rfl⟩ := exists_of_map_eq_ok read
    simp only [texts, List.forall_mem_singleton]
    apply foldlM_invariant (fun f => OnLine f.currentDatabase) _ folded (by decide)
    exact fun field mem _ _ => onLine_of_memoryRead (onLine_of_mem_fields mem)
  | tableFile =>
    obtain ⟨f, folded, rfl⟩ := exists_of_map_eq_ok read
    have both : OnLine f.filePath ∧ OnLine f.currentDatabase := by
      apply foldlM_invariant (fun f => OnLine f.filePath ∧ OnLine f.currentDatabase) _ folded
        (by decide)
      exact fun field mem _ _ => onLine_of_fileRead (onLine_of_mem_fields mem)
    simpa [texts] using both

/-- Figures are read back from their text just when no text among them holds a line feed or
begins or ends with a blank. -/
theorem ofText_toText_iff (info : ServerInfo)
    (fit : ∀ count ∈ info.counts, count < Text.wordBound) :
    ofText info.kind info.toText = .ok info ↔
      ∀ text ∈ info.texts, '\n' ∉ text.toList ∧
        (∀ c ∈ text.toList.head?, Text.isBlank c = false) ∧
        ∀ c ∈ text.toList.getLast?, Text.isBlank c = false := by
  simp only [← Text.onLine_iff_ends]
  constructor
  · intro read
    exact onLine_of_ofText read
  · intro onLine
    exact ofText_toText onLine fit

/-- A text may be empty, and it may hold colons, hashes, spaces and returns inside; the
largest word is a figure. -/
theorem ofText_toText_iff_path :
    let info : ServerInfo :=
      .tableFile ⟨"#/tmp/a:b \r# keys:1", Text.wordBound - 1, 0, "", Text.wordBound - 1⟩
    ofText info.kind info.toText = .ok info := by
  intro info
  have onLine : ∀ text ∈ info.texts, Text.OnLine text := by
    simp only [info, texts, List.forall_mem_cons]
    exact ⟨by decide, by decide, nofun⟩
  exact (ofText_toText_iff info (by decide)).2 fun text mem =>
    Text.onLine_iff_ends.1 (onLine text mem)

end KeyConsole.ServerInfo
