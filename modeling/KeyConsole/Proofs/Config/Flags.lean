import KeyConsole.Proofs.Config.Line
import KeyConsole.Proofs.Rows

/-!
# Lists of flags

A list of arguments is read one flag at a time: the flag that creates a file is one
argument, a flag that sets a text takes the next argument along, and reading stops in
front of anything else.  So every list is a row of flags and a rest at which reading
stops.  What has been read does not depend on that rest, and two rows of flags in turn
do what the row of both does.
-/

namespace KeyConsole.Config

/-! ## Single flags -/

/-- A flag as it is read. -/
inductive Flag where
  /-- Create a file that does not exist. -/
  | create
  /-- Set a text to the value that is written behind the flag. -/
  | set (setting : Setting) (written : String)

namespace Flag

/-- The arguments that a flag takes up. -/
def args : Flag → List String
  | create => ["-c"]
  | set setting written => [setting.flag, written]

/-- The settings after a flag. -/
def apply (config : Config) : Flag → Config
  | create => { config with createIfMissing := true }
  | set setting written => setting.put config (unescape written)

theorem args_ne_nil (flag : Flag) : flag.args ≠ [] := by
  cases flag <;> exact List.cons_ne_nil _ _

end Flag

/-- No flag stands in front: reading stops here. -/
def Stops (args : List String) : Prop :=
  ¬∃ (flag : Flag) (rest : List String), args = flag.args ++ rest

theorem stops_nil : Stops [] := by
  rintro ⟨flag, rest, same⟩
  exact flag.args_ne_nil (List.append_eq_nil_iff.1 same.symm).1

theorem applyArgs_flag_append (flag : Flag) (config : Config) (rest : List String) :
    config.applyArgs (flag.args ++ rest)
      = (((flag.apply config).applyArgs rest).1,
          flag.args.length + ((flag.apply config).applyArgs rest).2) := by
  cases flag with
  | create =>
    cases rest with
    | nil => rfl
    | cons next rest =>
      rw [Flag.args, List.singleton_append, applyArgs, if_pos rfl, List.length_singleton,
        Nat.add_comm]
      rfl
  | set setting written =>
    rw [Flag.args, List.cons_append, List.singleton_append, applyArgs_flag, List.length_cons,
      List.length_singleton, Nat.add_comm]
    rfl

theorem applyArgs_of_stops {args : List String} (stops : Stops args) (config : Config) :
    config.applyArgs args = (config, 0) := by
  cases args using applyArgs.fun_cases config with
  | case1 => rfl
  | case2 => exact absurd ⟨.create, [], rfl⟩ stops
  | case3 flag other => rw [applyArgs, if_neg other]
  | case4 value rest => exact absurd ⟨.create, value :: rest, rfl⟩ stops
  | case5 flag value rest other assigned isAssigned =>
    obtain ⟨setting, rfl, -⟩ := Setting.exists_setting_of_assign isAssigned
    exact absurd ⟨.set setting value, rest, rfl⟩ stops
  | case6 flag value rest other unknown => rw [applyArgs, if_neg other, unknown]

/-! ## Rows of flags -/

/-- The settings after flags in turn. -/
def applyAll (config : Config) (flags : List Flag) : Config :=
  flags.foldl Flag.apply config

/-- Flags in front of a list are all read, and then the list is. -/
theorem applyArgs_flags_append (flags : List Flag) (config : Config) (rest : List String) :
    config.applyArgs (flags.flatMap Flag.args ++ rest)
      = (((config.applyAll flags).applyArgs rest).1,
          (flags.flatMap Flag.args).length + ((config.applyAll flags).applyArgs rest).2) := by
  induction flags generalizing config with
  | nil => rw [List.flatMap_nil, List.nil_append, List.length_nil, Nat.zero_add]; rfl
  | cons flag flags ih =>
    rw [List.flatMap_cons, List.append_assoc, applyArgs_flag_append, ih, List.length_append,
      Nat.add_assoc]
    rfl

/-- A row of flags is used up. -/
theorem applyArgs_flags (flags : List Flag) (config : Config) :
    config.applyArgs (flags.flatMap Flag.args)
      = (config.applyAll flags, (flags.flatMap Flag.args).length) := by
  have read := applyArgs_flags_append flags config []
  rwa [List.append_nil, applyArgs_of_stops stops_nil, Nat.add_zero] at read

/-- What reading a list comes down to: the row of flags in front is read, whatever the
settings are, and nothing behind it. -/
theorem exists_read (args : List String) :
    ∃ (flags : List Flag) (rest : List String), args = flags.flatMap Flag.args ++ rest ∧
      ∀ config : Config,
        config.applyArgs args = (config.applyAll flags, (flags.flatMap Flag.args).length) := by
  obtain ⟨flags, rest, split, stops⟩ := exists_row Flag.args_ne_nil args
  refine ⟨flags, rest, split, fun config => ?_⟩
  rw [split, applyArgs_flags_append, applyArgs_of_stops stops, Nat.add_zero]

/-- A list of which everything is used is a row of flags. -/
theorem exists_flags_of_used {config : Config} {args : List String}
    (used : (config.applyArgs args).2 = args.length) :
    ∃ flags : List Flag, args = flags.flatMap Flag.args := by
  obtain ⟨flags, rest, split, read⟩ := exists_read args
  rw [read, split, List.length_append, Nat.left_eq_add, List.length_eq_zero_iff] at used
  exact ⟨flags, by rw [split, used, List.append_nil]⟩

/-! ## What lists of flags do -/

/-- The flags that give a configuration set all of it. -/
theorem applyArgs_toArgs {base : Config} (off : base.createIfMissing = false) (config : Config) :
    base.applyArgs config.toArgs = (config, config.toArgs.length) := by
  let texts : List Flag := [Setting.dbName, .delimiter, .nsSeparator].map fun setting =>
    .set setting (escape (setting.text config))
  let flags : List Flag := texts ++ if config.createIfMissing then [.create] else []
  have written : config.toArgs = flags.flatMap Flag.args := by
    rcases config with ⟨dbName, delimiter, nsSeparator, create⟩
    cases create <;> rfl
  have given : base.applyAll flags = config := by
    rcases config with ⟨dbName, delimiter, nsSeparator, create⟩
    cases create <;>
      simp [flags, texts, applyAll, Flag.apply, Setting.put, Setting.text, unescape_escape, off]
  rw [written, applyArgs_flags, given]

/-- Behind a list that is used up, another list is read as it is by itself. -/
theorem applyArgs_append {config : Config} {first : List String}
    (used : (config.applyArgs first).2 = first.length) (second : List String) (other : Config) :
    config.applyArgs (first ++ second)
      = (((config.applyArgs first).1.applyArgs second).1,
          first.length + (other.applyArgs second).2) := by
  obtain ⟨flags, rfl⟩ := exists_flags_of_used used
  obtain ⟨others, rest, -, read⟩ := exists_read second
  rw [applyArgs_flags_append, applyArgs_flags, read, read]

/-- The arguments that have been used are used up by themselves, to the same effect. -/
theorem applyArgs_take (config : Config) (args : List String) :
    (config.applyArgs args).2 ≤ args.length ∧
      config.applyArgs (args.take (config.applyArgs args).2) = config.applyArgs args := by
  obtain ⟨flags, rest, split, read⟩ := exists_read args
  rw [read]
  constructor
  · rw [split, List.length_append]
    exact Nat.le_add_right _ _
  · rw [split, List.take_left, applyArgs_flags]

/-- The arguments that a configuration is written as give it back, whatever its texts are.
Lists that are used up can be applied in one piece or in turn, and what is left over of a
list has no effect. -/
theorem applyArgs_composes :
    (∀ base config : Config, base.createIfMissing = false →
        base.applyArgs config.toArgs = (config, config.toArgs.length)) ∧
      (∀ (config other : Config) (first second : List String),
        (config.applyArgs first).2 = first.length →
          config.applyArgs (first ++ second)
            = (((config.applyArgs first).1.applyArgs second).1,
                first.length + (other.applyArgs second).2)) ∧
      (∀ (config : Config) (first second : List String),
        first.take (config.applyArgs first).2 = second.take (config.applyArgs second).2 →
          (config.applyArgs first).1 = (config.applyArgs second).1) ∧
      ∀ (config : Config) (args : List String),
        (config.applyArgs args).2 ≤ args.length ∧
          config.applyArgs (args.take (config.applyArgs args).2) = config.applyArgs args := by
  refine ⟨fun base config off => applyArgs_toArgs off config, ?_, ?_, applyArgs_take⟩
  · intro config other first second used
    exact applyArgs_append used second other
  · intro config first second same
    have again (args : List String) := (applyArgs_take config args).2
    rw [← again first, ← again second, same]

/-- Texts may be empty, look like flags, and hold backslashes and blanks that have no
escape; a flag that lacks its value is left over. -/
theorem applyArgs_composes_awkward :
    let config : Config := ⟨"", "-c", "\\ \u3000\\", true⟩
    (Config.forDatabase "other").applyArgs config.toArgs = (config, config.toArgs.length) ∧
      (Config.forDatabase "other").applyArgs (["-f", "-d", "-c"] ++ ["-d", ",", "-ns"])
        = (((Config.forDatabase "other").applyArgs ["-f", "-d", "-c"]).1.applyArgs
              ["-d", ",", "-ns"] |>.1, 5) ∧
      ((Config.forDatabase "other").applyArgs ["-c", "-ns"]).1
        = ((Config.forDatabase "other").applyArgs ["-c", "-x", "-c"]).1 := by
  intro config
  obtain ⟨gives, appends, depends, -⟩ := applyArgs_composes
  exact ⟨gives _ _ rfl, appends _ (Config.forDatabase "") _ _ (by decide),
    depends _ _ _ (by decide)⟩

end KeyConsole.Config
