import KeyConsole.Command.Builtin

/-!
# What a command is asked for

A built-in command reads its arguments before it does anything.  An argument is missing
only when there are fewer than the command needs, so a call that is accepted is refused
for what its arguments say, or the command runs with all of them.
-/

namespace KeyConsole.Builtin

variable {builtin : Builtin} {args : List Bytes}

/-- An argument is missing only when there are fewer than the command needs. -/
theorem length_lt_of_invocation?_eq_none (missing : builtin.invocation? args = none) :
    args.length < builtin.description.minArgs := by
  cases builtin with
  | keys =>
    rcases args with _ | ⟨first, _ | ⟨last, _ | ⟨limit, rest⟩⟩⟩
    · simp [description, describe]
    · simp [description, describe]
    · simp [description, describe]
    · cases missing
  | set | rename | expire =>
    rcases args with _ | ⟨first, _ | ⟨second, rest⟩⟩
    · simp [description, describe]
    · simp [description, describe]
    · cases missing
  | get | scan | createDb | removeDb | select | ttl | configGet =>
    rcases args with _ | ⟨first, rest⟩
    · simp [description, describe]
    · cases missing
  | del | countKeys | flush | info | help | quit => cases missing

/-- With a number of arguments that it takes, a command reads no argument that is not
there. -/
theorem exists_invocation?_of_accepts
    (accepted : builtin.description.accepts args.length = true) :
    ∃ read, builtin.invocation? args = some read := by
  apply Option.ne_none_iff_exists'.1
  intro missing
  simp only [CommandInfo.accepts, Bool.and_eq_true, decide_eq_true_eq] at accepted
  exact Nat.not_lt.2 accepted.1 (length_lt_of_invocation?_eq_none missing)

end KeyConsole.Builtin
