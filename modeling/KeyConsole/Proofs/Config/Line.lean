import KeyConsole.Config
import KeyConsole.Proofs.Text.Words

/-!
# The line of a configuration

The settings of a connection are written in one line of flags and read back from it.
Four blanks and the backslash have escapes, but the line is cut at every blank, and an
empty text leaves no word.  So the line gives back exactly the settings whose texts are
not empty and hold no other blanks.
-/

namespace KeyConsole.Config

/-! ## Texts that a line can carry -/

/-- The blanks that have an escape. -/
def escapedBlanks : List Char := ['\n', '\r', '\t', ' ']

/-- A text that a line of flags can carry: it is not empty, and its blanks have
escapes. -/
structure Portable (text : String) : Prop where
  nonempty : text ≠ ""
  escaped : ∀ c ∈ text.toList, Text.isBlank c = true → c ∈ escapedBlanks

instance (text : String) : Decidable (Portable text) :=
  decidable_of_iff (text ≠ "" ∧
      text.toList.all (fun c => !Text.isBlank c || escapedBlanks.contains c) = true) <| by
    rw [List.all_eq_true]
    constructor
    · rintro ⟨nonempty, escaped⟩
      exact ⟨nonempty, fun c mem blank => by simpa [blank] using escaped c mem⟩
    · rintro ⟨nonempty, escaped⟩
      refine ⟨nonempty, fun c mem => ?_⟩
      cases blank : Text.isBlank c with
      | false => simp
      | true => simpa [blank] using escaped c mem blank

theorem escapeChar_ne_nil (c : Char) : escapeChar c ≠ [] := by
  unfold escapeChar
  repeat' split
  all_goals simp

/-- A character that has an escape if it is blank is written without blanks. -/
theorem isBlank_of_mem_escapeChar {c d : Char}
    (escaped : Text.isBlank c = true → c ∈ escapedBlanks) (mem : d ∈ escapeChar c) :
    Text.isBlank d = false := by
  by_cases special : c = '\\' ∨ c ∈ escapedBlanks
  · have written : (escapeChar c).all (fun e => !Text.isBlank e) = true := by
      simp only [escapedBlanks, List.mem_cons, List.not_mem_nil, or_false] at special
      rcases special with rfl | rfl | rfl | rfl | rfl <;> decide
    simpa using List.all_eq_true.1 written d mem
  · rw [not_or] at special
    have plain : escapeChar c = [c] := by
      have others := special.2
      simp only [escapedBlanks, List.mem_cons, List.not_mem_nil, or_false, not_or] at others
      simp [escapeChar, special.1, others]
    obtain rfl : d = c := by simpa [plain] using mem
    exact Bool.eq_false_iff.2 fun blank => special.2 (escaped blank)

theorem isWord_escape {text : String} (portable : Portable text) : Text.IsWord (escape text) where
  nonempty := by
    have nonempty : text.toList ≠ [] := by simpa using portable.nonempty
    cases spelled : text.toList with
    | nil => exact absurd spelled nonempty
    | cons c cs => simp [escape, spelled, escapeChar_ne_nil]
  visible d mem := by
    simp only [escape, String.toList_ofList, List.mem_flatMap] at mem
    obtain ⟨c, isChar, mem⟩ := mem
    exact isBlank_of_mem_escapeChar (portable.escaped c isChar) mem

/-- Reading escapes finds characters that are written, and blanks that have escapes. -/
theorem mem_unescapeChars {cs : List Char} {c : Char} (mem : c ∈ unescapeChars cs) :
    c ∈ cs ∨ c ∈ escapedBlanks := by
  induction cs using unescapeChars.induct with
  | case1 d ds ih =>
    rw [unescapeChars] at mem
    rcases List.mem_cons.1 mem with rfl | mem
    · unfold escapedChar
      repeat' split
      all_goals simp [escapedBlanks]
    · rcases ih mem with mem | mem
      · exact Or.inl (List.mem_cons_of_mem _ (List.mem_cons_of_mem _ mem))
      · exact Or.inr mem
  | case2 d ds notEscape ih =>
    rw [unescapeChars] at mem
    · rcases List.mem_cons.1 mem with rfl | mem
      · exact Or.inl List.mem_cons_self
      · exact (ih mem).imp_left (List.mem_cons_of_mem _)
    · exact notEscape
  | case3 => simp [unescapeChars] at mem

theorem unescapeChars_ne_nil {cs : List Char} (nonempty : cs ≠ []) : unescapeChars cs ≠ [] := by
  cases cs using unescapeChars.fun_cases with
  | case1 => simp [unescapeChars]
  | case2 c cs notEscape => simp [unescapeChars]
  | case3 => exact absurd rfl nonempty

theorem portable_unescape {word : String} (isWord : Text.IsWord word) :
    Portable (unescape word) where
  nonempty := by
    have nonempty : word.toList ≠ [] := by simpa using isWord.nonempty
    simpa [unescape] using unescapeChars_ne_nil nonempty
  escaped c mem blank := by
    simp only [unescape, String.toList_ofList] at mem
    rcases mem_unescapeChars mem with mem | mem
    · exact absurd blank (by simp [isWord.visible c mem])
    · exact mem

/-! ## Settings -/

/-- The settings that are texts. -/
inductive Setting where
  | dbName
  | delimiter
  | nsSeparator

namespace Setting

/-- The flag that sets a text. -/
def flag : Setting → String
  | dbName => "-f"
  | delimiter => "-d"
  | nsSeparator => "-ns"

/-- The text that is set. -/
def text : Setting → Config → String
  | dbName, config => config.dbName
  | delimiter, config => config.delimiter
  | nsSeparator, config => config.nsSeparator

/-- Set a text. -/
def put (config : Config) (value : String) : Setting → Config
  | dbName => { config with dbName := value }
  | delimiter => { config with delimiter := value }
  | nsSeparator => { config with nsSeparator := value }

/-- The flag that sets a text, with the text as it is written. -/
def args (config : Config) (setting : Setting) : List String :=
  [setting.flag, escape (setting.text config)]

theorem isWord_flag (setting : Setting) : Text.IsWord setting.flag := by
  cases setting <;> decide

theorem assign_flag (setting : Setting) (config : Config) (value : String) :
    config.assign setting.flag value = some (setting.put config (unescape value)) := by
  cases setting <;> rfl

theorem flag_ne_create (setting : Setting) : setting.flag ≠ "-c" := by
  cases setting <;> decide

/-- What assigns a value is the flag of one text, which it sets. -/
theorem exists_setting_of_assign {config assigned : Config} {flag value : String}
    (isAssigned : config.assign flag value = some assigned) :
    ∃ setting : Setting, flag = setting.flag ∧ assigned = setting.put config (unescape value) := by
  unfold assign at isAssigned
  split at isAssigned
  · next isFlag => exact ⟨delimiter, isFlag, (Option.some.inj isAssigned).symm⟩
  · split at isAssigned
    · next isFlag => exact ⟨nsSeparator, isFlag, (Option.some.inj isAssigned).symm⟩
    · split at isAssigned
      · next isFlag => exact ⟨dbName, isFlag, (Option.some.inj isAssigned).symm⟩
      · cases isAssigned

theorem text_put_self (setting : Setting) (config : Config) (value : String) :
    setting.text (setting.put config value) = value := by
  cases setting <;> rfl

/-- A text is what it has been set to, or what it was. -/
theorem text_put (setting other : Setting) (config : Config) (value : String) :
    setting.text (other.put config value) = value
      ∨ setting.text (other.put config value) = setting.text config := by
  cases setting <;> cases other <;> simp [text, put]

end Setting

/-! ## Reading flags -/

theorem applyArgs_flag (setting : Setting) (config : Config) (value : String)
    (rest : List String) :
    config.applyArgs (setting.flag :: value :: rest)
      = (((setting.put config (unescape value)).applyArgs rest).1,
          ((setting.put config (unescape value)).applyArgs rest).2 + 2) := by
  rw [applyArgs, if_neg setting.flag_ne_create, setting.assign_flag]

theorem applyArgs_flag_alone (setting : Setting) (config : Config) :
    config.applyArgs [setting.flag] = (config, 0) := by
  rw [applyArgs, if_neg setting.flag_ne_create]

/-- Words set texts only to what a line can carry. -/
theorem portable_applyArgs (setting : Setting) {config : Config} {args : List String}
    (areWords : ∀ arg ∈ args, Text.IsWord arg) (portable : Portable (setting.text config)) :
    Portable (setting.text (config.applyArgs args).1) := by
  induction config, args using applyArgs.induct with
  | case1 config => exact portable
  | case2 config =>
    cases setting <;> exact portable
  | case3 config flag other =>
    rw [applyArgs, if_neg other]
    exact portable
  | case4 config value rest _ _ _ ih =>
    have left : setting.text { config with createIfMissing := true } = setting.text config := by
      cases setting <;> rfl
    exact ih (fun arg mem => areWords arg (List.mem_cons_of_mem _ mem)) (left ▸ portable)
  | case5 config flag value rest other assigned isAssigned _ _ _ ih =>
    rw [applyArgs, if_neg other, isAssigned]
    obtain ⟨put, -, rfl⟩ := Setting.exists_setting_of_assign isAssigned
    apply ih
    · intro arg mem
      exact areWords arg (List.mem_cons_of_mem _ (List.mem_cons_of_mem _ mem))
    · have isWord := areWords value (List.mem_cons_of_mem _ List.mem_cons_self)
      rcases setting.text_put put config (unescape value) with set | kept
      · rw [set]
        exact portable_unescape isWord
      · rw [kept]
        exact portable
  | case6 config flag value rest other unknown =>
    rw [applyArgs, if_neg other, unknown]
    exact portable

/-- The line of some flags takes one configuration to another, and all its words are
used. -/
def Leads (args : List String) (base config : Config) : Prop :=
  base.applyLine (Text.join " " args) = (config, (Text.words (Text.join " " args)).length)

/-- A flag that is read sets a text that a line can carry, and so do all that follow. -/
theorem Leads.portable {setting : Setting} {args : List String} {base config : Config}
    (leads : Leads (setting.flag :: args) base config) : Portable (setting.text config) := by
  rw [Leads, applyLine, Text.words_join_cons setting.isWord_flag] at leads
  cases words : Text.words (Text.join " " args) with
  | nil =>
    rw [words, applyArgs_flag_alone] at leads
    cases congrArg Prod.snd leads
  | cons value rest =>
    have areWords : ∀ word ∈ value :: rest, Text.IsWord word :=
      fun word mem => Text.isWord_of_mem_words (words ▸ mem)
    obtain ⟨isWord, areWords⟩ := List.forall_mem_cons.1 areWords
    rw [words, applyArgs_flag] at leads
    have given : ((setting.put base (unescape value)).applyArgs rest).1 = config :=
      congrArg Prod.fst leads
    rw [← given]
    apply portable_applyArgs setting areWords
    rw [setting.text_put_self]
    exact portable_unescape isWord

/-- A text that a line can carry is set by its flag, and then the flags behind are read. -/
theorem leads_args_iff {setting : Setting} {config : Config}
    (portable : Portable (setting.text config)) (base : Config) (rest : List String) :
    Leads (setting.args config ++ rest) base config ↔
      Leads rest (setting.put base (setting.text config)) config := by
  have words : Text.words (Text.join " " (setting.args config ++ rest))
      = setting.flag :: escape (setting.text config) :: Text.words (Text.join " " rest) := by
    rw [Setting.args, List.cons_append, List.singleton_append,
      Text.words_join_cons setting.isWord_flag, Text.words_join_cons (isWord_escape portable)]
  rw [Leads, Leads, applyLine, applyLine, words, applyArgs_flag, unescape_escape]
  simp [Prod.ext_iff]

/-- Flags that set texts are read if the line can carry the texts, and then the flags
behind them are read. -/
theorem leads_flatMap_args_iff (settings : List Setting) (base config : Config)
    (tail : List String) :
    Leads (settings.flatMap (Setting.args config) ++ tail) base config ↔
      (∀ setting ∈ settings, Portable (setting.text config)) ∧
        Leads tail
          (settings.foldl (fun base setting => setting.put base (setting.text config)) base)
          config := by
  induction settings generalizing base with
  | nil => simp
  | cons setting settings ih =>
    rw [List.flatMap_cons, List.append_assoc, List.forall_mem_cons, List.foldl_cons]
    constructor
    · intro leads
      have portable := leads.portable
      obtain ⟨others, left⟩ := (ih _).1 ((leads_args_iff portable base _).1 leads)
      exact ⟨⟨portable, others⟩, left⟩
    · rintro ⟨⟨portable, others⟩, left⟩
      exact (leads_args_iff portable base _).2 ((ih _).2 ⟨others, left⟩)

/-! ## The whole line -/

/-- On settings that do not create anything, the line of a configuration gives that
configuration and is used up, just when the line can carry its texts. -/
theorem applyLine_line_iff (base config : Config) (off : base.createIfMissing = false) :
    base.applyLine config.line = (config, (Text.words config.line).length) ↔
      Portable config.dbName ∧ Portable config.delimiter ∧ Portable config.nsSeparator := by
  let settings : List Setting := [.dbName, .delimiter, .nsSeparator]
  let tail : List String := if config.createIfMissing then ["-c"] else []
  have texts : base.applyLine config.line = (config, (Text.words config.line).length) ↔
      (∀ setting ∈ settings, Portable (setting.text config)) ∧
        Leads tail { config with createIfMissing := base.createIfMissing } config :=
    leads_flatMap_args_iff settings base config tail
  have created : Leads tail { config with createIfMissing := base.createIfMissing } config := by
    rw [off]
    rcases config with ⟨dbName, delimiter, nsSeparator, create⟩
    cases create with
    | false => rfl
    | true =>
      have words : Text.words (Text.join " " ["-c"]) = ["-c"] :=
        Text.words_join_cons (by decide) []
      simp [tail, Leads, applyLine, words, applyArgs]
  rw [texts, and_iff_left created]
  simp [settings, Setting.text]

/-- A path with spaces is read back from its line. -/
theorem applyLine_line_iff_path :
    let config : Config := ⟨"/tmp/my data", "\n", " :: ", true⟩
    (Config.forDatabase "other").applyLine config.line
      = (config, (Text.words config.line).length) := by
  intro config
  have portable : Portable config.dbName ∧ Portable config.delimiter
      ∧ Portable config.nsSeparator := by decide
  exact (applyLine_line_iff (Config.forDatabase "other") config rfl).2 portable

/-- A configuration is not read back if a text is empty: the word behind its flag is the
next flag. -/
theorem applyLine_line_empty :
    ¬∀ base config : Config, base.createIfMissing = false →
      base.applyLine config.line = (config, (Text.words config.line).length) := by
  intro always
  have leads := always (Config.forDatabase "other") (Config.forDatabase "") rfl
  have read : (Config.forDatabase "other").applyLine (Config.forDatabase "").line
      = (Config.forDatabase "-d", 2) := by rfl
  have same : "-d" = "" := congrArg (fun given => given.1.dbName) (read.symm.trans leads)
  exact absurd same (by decide)

end KeyConsole.Config
