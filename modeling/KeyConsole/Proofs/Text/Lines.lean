import Mathlib.Data.List.DropRight
import KeyConsole.Text.Blank

/-!
# Texts that keep to one line

A text keeps to a line if it holds no line feed and neither begins nor ends with a
blank.  Such a text is found on its line as it stands, and whatever is cut out of a
line and trimmed is such a text.
-/

namespace KeyConsole.Text

theorem isBlank_of_isDigit {c : Char} (digit : c.isDigit = true) : isBlank c = false := by
  have range : 48 ≤ c.toNat ∧ c.toNat ≤ 57 := Char.isDigit_iff_toNat.1 digit
  simp only [isBlank, blankRanges, List.any_cons, List.any_nil, Bool.or_eq_false_iff,
    Bool.and_eq_false_iff, decide_eq_false_iff_not, Nat.not_le, and_true]
  omega

/-! ## Trimming -/

theorem dropWhile_isBlank_eq_self_iff {cs : List Char} :
    cs.dropWhile isBlank = cs ↔ ∀ c ∈ cs.head?, isBlank c = false := by
  cases cs with
  | nil => simp
  | cons c cs => simp [List.dropWhile_eq_self_iff]

theorem rdropWhile_isBlank_eq_self_iff {cs : List Char} :
    cs.rdropWhile isBlank = cs ↔ ∀ c ∈ cs.getLast?, isBlank c = false := by
  rw [List.rdropWhile, List.reverse_eq_iff, dropWhile_isBlank_eq_self_iff, List.head?_reverse]

theorem trimChars_eq_rdropWhile (cs : List Char) :
    trimChars cs = (cs.dropWhile isBlank).rdropWhile isBlank := rfl

/-- Nothing is cut off if neither end is a blank. -/
theorem trimChars_eq_self_iff {cs : List Char} :
    trimChars cs = cs ↔
      (∀ c ∈ cs.head?, isBlank c = false) ∧ ∀ c ∈ cs.getLast?, isBlank c = false := by
  rw [trimChars_eq_rdropWhile, ← dropWhile_isBlank_eq_self_iff, ← rdropWhile_isBlank_eq_self_iff]
  constructor
  · intro kept
    have whole : cs.dropWhile isBlank = cs := by
      apply (List.dropWhile_suffix _).eq_of_length_le
      have shorter := (List.rdropWhile_prefix isBlank (cs.dropWhile isBlank)).length_le
      rwa [kept] at shorter
    rw [whole] at kept
    exact ⟨whole, kept⟩
  · rintro ⟨front, back⟩
    rw [front, back]

theorem mem_of_mem_trimChars {cs : List Char} {c : Char} (mem : c ∈ trimChars cs) : c ∈ cs := by
  rw [trimChars_eq_rdropWhile] at mem
  exact (List.dropWhile_suffix _).mem ((List.rdropWhile_prefix _ _).mem mem)

/-- What has been trimmed has no blanks at its ends. -/
theorem trimChars_trimChars (cs : List Char) : trimChars (trimChars cs) = trimChars cs := by
  have front : (trimChars cs).dropWhile isBlank = trimChars cs := by
    rw [dropWhile_isBlank_eq_self_iff]
    intro c first
    obtain ⟨rest, split⟩ := List.rdropWhile_prefix isBlank (cs.dropWhile isBlank)
    have firstToo : (cs.dropWhile isBlank).head? = some c := by
      rw [← split, List.head?_append, ← trimChars_eq_rdropWhile, first]
      rfl
    have visible := List.head?_dropWhile_not isBlank cs
    rw [firstToo] at visible
    exact visible
  rw [trimChars_eq_rdropWhile (trimChars cs), front, trimChars_eq_rdropWhile,
    List.rdropWhile_idempotent]

theorem trim_eq_self_iff {text : String} :
    trim text = text ↔ trimChars text.toList = text.toList := by
  rw [trim, ← String.toList_inj, String.toList_ofList]

/-! ## Texts on one line -/

/-- A text that keeps to one line: it holds no line feed, and neither of its ends is a
blank. -/
structure OnLine (text : String) : Prop where
  unbroken : ∀ c ∈ text.toList, c ≠ '\n'
  trimmed : trim text = text

instance (text : String) : Decidable (OnLine text) :=
  decidable_of_iff (text.toList.all (· != '\n') = true ∧ trim text = text) <| by
    rw [List.all_eq_true]
    constructor
    · rintro ⟨unbroken, trimmed⟩
      exact ⟨fun c mem => by simpa using unbroken c mem, trimmed⟩
    · rintro ⟨unbroken, trimmed⟩
      exact ⟨fun c mem => by simpa using unbroken c mem, trimmed⟩

/-- A text keeps to a line just when it holds no line feed and neither its first nor its
last character is a blank. -/
theorem onLine_iff_ends {text : String} :
    OnLine text ↔ '\n' ∉ text.toList ∧
      (∀ c ∈ text.toList.head?, isBlank c = false) ∧
      ∀ c ∈ text.toList.getLast?, isBlank c = false := by
  rw [← trimChars_eq_self_iff, ← trim_eq_self_iff]
  constructor
  · rintro ⟨unbroken, trimmed⟩
    exact ⟨fun mem => unbroken _ mem rfl, trimmed⟩
  · rintro ⟨unbroken, trimmed⟩
    exact ⟨fun c mem isFeed => unbroken (isFeed ▸ mem), trimmed⟩

theorem OnLine.visible_last {text : String} (onLine : OnLine text) :
    ∀ c ∈ text.toList.getLast?, isBlank c = false :=
  (onLine_iff_ends.1 onLine).2.2

theorem visible_getLast?_cons {c : Char} {cs : List Char} (visible : isBlank c = false)
    (visibleLast : ∀ d ∈ cs.getLast?, isBlank d = false) :
    ∀ d ∈ (c :: cs).getLast?, isBlank d = false := by
  rw [List.getLast?_cons]
  cases last : cs.getLast? with
  | none => simpa using visible
  | some d => simpa using visibleLast d last

/-- What is trimmed out of an unbroken line keeps to a line. -/
theorem onLine_ofList_trimChars {cs : List Char} (unbroken : ∀ c ∈ cs, c ≠ '\n') :
    OnLine (String.ofList (trimChars cs)) where
  unbroken c mem := by
    rw [String.toList_ofList] at mem
    exact unbroken c (mem_of_mem_trimChars mem)
  trimmed := by
    rw [trim_eq_self_iff, String.toList_ofList, trimChars_trimChars]

/-- A text without blanks keeps to a line. -/
theorem onLine_of_visible {text : String} (visible : ∀ c ∈ text.toList, isBlank c = false) :
    OnLine text where
  unbroken c mem := by
    rintro rfl
    exact absurd (visible _ mem) (by decide)
  trimmed := by
    rw [trim_eq_self_iff, trimChars_eq_self_iff]
    constructor
    · exact fun c first => visible c (List.mem_of_mem_head? first)
    · exact fun c last => visible c (List.mem_of_mem_getLast? last)

/-! ## Lines of a text -/

theorem linesFrom_lineFeed {cs : List Char} (unbroken : ∀ c ∈ cs, c ≠ '\n')
    (line rest : List Char) :
    linesFrom line (cs ++ '\n' :: rest) = dropReturn (line ++ cs) :: linesFrom [] rest := by
  induction cs generalizing line with
  | nil => rw [List.nil_append, List.append_nil, linesFrom, if_pos rfl]
  | cons c cs ih =>
    obtain ⟨notFeed, unbroken⟩ := List.forall_mem_cons.1 unbroken
    rw [List.cons_append, linesFrom, if_neg notFeed, ih unbroken, List.append_assoc,
      List.singleton_append]

theorem linesFrom_last {cs : List Char} (unbroken : ∀ c ∈ cs, c ≠ '\n') {line : List Char}
    (nonempty : line ++ cs ≠ []) : linesFrom line cs = [line ++ cs] := by
  induction cs generalizing line with
  | nil =>
    rw [List.append_nil] at nonempty ⊢
    rw [linesFrom, if_neg (by simpa using nonempty)]
  | cons c cs ih =>
    obtain ⟨notFeed, unbroken⟩ := List.forall_mem_cons.1 unbroken
    rw [linesFrom, if_neg notFeed, ih unbroken (by simp), List.append_assoc,
      List.singleton_append]

/-- An unbroken line is the first one of a text that begins with it. -/
theorem lines_lineFeed {line : String} (unbroken : ∀ c ∈ line.toList, c ≠ '\n') (rest : String) :
    lines (line ++ "\n" ++ rest) = String.ofList (dropReturn line.toList) :: lines rest := by
  have split := linesFrom_lineFeed unbroken [] rest.toList
  simp [lines, split]

theorem mem_of_mem_dropReturn {line : List Char} {c : Char} (mem : c ∈ dropReturn line) :
    c ∈ line := by
  unfold dropReturn at mem
  split at mem
  · exact List.dropLast_subset _ mem
  · exact mem

/-- A return is a blank, so none is taken off a line that does not end in a blank. -/
theorem dropReturn_eq_self {line : List Char} (visible : ∀ c ∈ line.getLast?, isBlank c = false) :
    dropReturn line = line := by
  apply if_neg
  intro last
  exact absurd (visible _ last) (by decide)

theorem unbroken_of_mem_linesFrom {line text found : List Char} (unbroken : ∀ c ∈ line, c ≠ '\n')
    (mem : found ∈ linesFrom line text) : ∀ c ∈ found, c ≠ '\n' := by
  induction text generalizing line with
  | nil =>
    cases line with
    | nil => simp [linesFrom] at mem
    | cons c line =>
      obtain rfl : found = c :: line := by simpa [linesFrom] using mem
      exact unbroken
  | cons c text ih =>
    rw [linesFrom] at mem
    split at mem
    · rcases List.mem_cons.1 mem with rfl | mem
      · exact fun c isThere => unbroken c (mem_of_mem_dropReturn isThere)
      · exact ih (by simp) mem
    · next notFeed =>
      apply ih _ mem
      simp only [List.forall_mem_append, List.forall_mem_singleton]
      exact ⟨unbroken, notFeed⟩

theorem unbroken_of_mem_lines {text line : String} (mem : line ∈ lines text) :
    ∀ c ∈ line.toList, c ≠ '\n' := by
  obtain ⟨found, isFound, rfl⟩ := List.mem_map.1 mem
  rw [String.toList_ofList]
  exact unbroken_of_mem_linesFrom (by simp) isFound

/-! ## Cutting a line in two -/

theorem cutAt_eq_some_iff {sep : Char} {cs first rest : List Char} :
    cutAt sep cs = some (first, rest) ↔ sep ∉ first ∧ cs = first ++ sep :: rest := by
  induction cs generalizing first with
  | nil => simp [cutAt]
  | cons c cs ih =>
    rw [cutAt]
    split
    · next same =>
      subst same
      cases first with
      | nil => simp
      | cons d first =>
        simp +contextual
    · next other =>
      cases first with
      | nil => simp [other]
      | cons d first =>
        simp only [Option.map_eq_some_iff, Prod.exists, Prod.mk.injEq, List.cons.injEq,
          List.cons_append, List.mem_cons, not_or]
        constructor
        · rintro ⟨others, _, found, ⟨rfl, rfl⟩, rfl⟩
          obtain ⟨absent, rfl⟩ := ih.1 found
          exact ⟨⟨Ne.symm other, absent⟩, rfl, rfl⟩
        · rintro ⟨⟨_, absent⟩, rfl, split⟩
          exact ⟨first, rest, ih.2 ⟨absent, split⟩, ⟨rfl, rfl⟩, rfl⟩

end KeyConsole.Text
