import KeyConsole.Text.Blank
import KeyConsole.Text.Pieces

/-!
# Words of a line

The words of a text are not empty and hold no blanks, and words with spaces between
them are the words of the line that they make.
-/

namespace KeyConsole.Text

/-- A text that is a word: it is not empty and holds no blank. -/
structure IsWord (text : String) : Prop where
  nonempty : text ≠ ""
  visible : ∀ c ∈ text.toList, isBlank c = false

instance (text : String) : Decidable (IsWord text) :=
  decidable_of_iff (text ≠ "" ∧ text.toList.all (fun c => !isBlank c) = true) <| by
    rw [List.all_eq_true]
    constructor
    · rintro ⟨nonempty, visible⟩
      exact ⟨nonempty, fun c mem => by simpa using visible c mem⟩
    · rintro ⟨nonempty, visible⟩
      exact ⟨nonempty, fun c mem => by simpa using visible c mem⟩

theorem wordsFrom_append {cs : List Char} (visible : ∀ c ∈ cs, isBlank c = false)
    (word rest : List Char) : wordsFrom word (cs ++ rest) = wordsFrom (word ++ cs) rest := by
  induction cs generalizing word with
  | nil => simp
  | cons c cs ih =>
    obtain ⟨first, others⟩ := List.forall_mem_cons.1 visible
    simp [wordsFrom, first, ih others]

theorem visible_of_mem_wordsFrom {word cs found : List Char}
    (visible : ∀ c ∈ word, isBlank c = false) (mem : found ∈ wordsFrom word cs) :
    found ≠ [] ∧ ∀ c ∈ found, isBlank c = false := by
  induction cs generalizing word with
  | nil =>
    cases word with
    | nil => simp [wordsFrom] at mem
    | cons c cs =>
      obtain rfl : found = c :: cs := by simpa [wordsFrom] using mem
      exact ⟨by simp, visible⟩
  | cons c cs ih =>
    cases blank : isBlank c with
    | false =>
      rw [wordsFrom, if_neg (by simp [blank])] at mem
      apply ih _ mem
      simp only [List.forall_mem_append, List.forall_mem_singleton]
      exact ⟨visible, blank⟩
    | true =>
      rw [wordsFrom, if_pos blank] at mem
      cases word with
      | nil => exact ih (by simp) mem
      | cons d ds =>
        rcases List.mem_cons.1 mem with rfl | mem
        · exact ⟨by simp, visible⟩
        · exact ih (by simp) mem

theorem isWord_of_mem_words {text word : String} (mem : word ∈ words text) : IsWord word := by
  obtain ⟨found, isFound, rfl⟩ := List.mem_map.1 mem
  obtain ⟨nonempty, visible⟩ := visible_of_mem_wordsFrom (by simp) isFound
  constructor
  · simpa using nonempty
  · simpa using visible

/-- A word in front of a line is its first word. -/
theorem words_join_cons {word : String} (isWord : IsWord word) (texts : List String) :
    words (join " " (word :: texts)) = word :: words (join " " texts) := by
  have started (rest : List Char) :
      wordsFrom [] (word.toList ++ rest) = wordsFrom word.toList rest :=
    wordsFrom_append isWord.visible [] rest
  have nonempty : word.toList ≠ [] := by simpa using isWord.nonempty
  cases texts with
  | nil =>
    have ended := started []
    rw [List.append_nil] at ended
    simp [join, words, ended, wordsFrom, nonempty]
  | cons next texts =>
    have blank : isBlank ' ' = true := by decide
    simp [join, words, started, wordsFrom, blank, nonempty]

end KeyConsole.Text
