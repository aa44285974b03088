import KeyConsole.Proofs.Driver.KeyLines
import KeyConsole.Proofs.Session.Paging

/-!
# Pages of keys by way of a call

A page of keys is asked for by a call of the scan command, and read back from its reply.
Numbers and the pattern travel as tokens, the keys as texts or as bytes, and nothing is lost
either way; so the page is the one that the session itself would give.
-/

namespace KeyConsole

variable {B : Backend}

namespace Step

variable {ε σ α β : Type} {cause : ε}

/-- A step that is never refused for a cause. -/
def Avoids (cause : ε) (step : Step ε σ α) : Prop :=
  ∀ state, answer? (step state) ≠ some (.error cause)

theorem Avoids.bind {first : Step ε σ α} {next : α → Step ε σ β} (avoids : Avoids cause first)
    (avoidsNext : ∀ result, Avoids cause (next result)) : Avoids cause (first >>= next) := by
  intro state
  cases ran : first state with
  | ok result between =>
    rw [bind_of_ok ran]
    exact avoidsNext result between
  | error halt after =>
    have refused := avoids state
    rw [bind_of_error ran]
    rw [ran] at refused
    cases halt with
    | refused reason => simpa [answer?] using refused
    | broken => simp [answer?]

end Step

/-! ## From the request to the operation -/

namespace Builtin

theorem scanOptions_match_count (pattern : String) {count : Nat} (positive : 1 ≤ count)
    (fits : count < Text.wordBound) :
    scanOptions defaultScan (["MATCH", pattern, "COUNT", Text.natural count].map Text.encode)
      = .ok ⟨pattern, count⟩ := by
  have isMatch : Text.sameLetters "MATCH" "MATCH" = true := by decide
  have isNotMatch : Text.sameLetters "COUNT" "MATCH" = false := by decide
  have isCount : Text.sameLetters "COUNT" "COUNT" = true := by decide
  have isSome : count ≠ 0 := Nat.ne_of_gt positive
  simp [scanOptions, CommandLine.argumentText_encode, CommandLine.argumentWord_natural, fits,
    isMatch, isNotMatch, isCount, isSome, bind, Except.bind]

/-- The options of the call that asks for a page of keys are read as what is asked for. -/
theorem invocation?_scan (pattern : String) {cursor count : Nat}
    (cursorFits : cursor < Text.wordBound) (positive : 1 ≤ count)
    (countFits : count < Text.wordBound) :
    scan.invocation? ([Text.natural cursor, "MATCH", pattern, "COUNT", Text.natural count].map
      Text.encode) = some (.ok (.scan cursor ⟨pattern, count⟩)) := by
  rw [List.map_cons, invocation?, CommandLine.argumentWord_natural _ cursorFits,
    scanOptions_match_count pattern positive countFits]
  rfl

end Builtin

namespace Session

variable {now : Instant} {cursor count : Nat} {pattern : String}

theorem means_scanCall (kind : BackendKind) (cursor : Nat) (pattern : String) (count : Nat) :
    kind.backend.Means (scanCall cursor pattern count) .scan :=
  kind.means_backend (by decide) (by decide) (by rfl)

/-- The call that asks for a page of keys runs the scan that it describes. -/
theorem runCall_scanCall (means : B.Means (scanCall cursor pattern count) .scan)
    (cursorFits : cursor < Text.wordBound) (positive : 1 ≤ count)
    (countFits : count < Text.wordBound) (line : String) :
    runCall now line (scanCall cursor pattern count)
      = (fun page => CommandResult.mk line [Builtin.scanReply page.1 page.2])
          <$> scan (B := B) now cursor pattern count :=
  have read := Builtin.invocation?_scan pattern cursorFits positive countFits
  runCall_of_builtin means rfl read rfl line

theorem means_countKeys (kind : BackendKind) :
    kind.backend.Means [Text.encode "DBKCOUNT"] .countKeys :=
  kind.means_backend (by decide) (by decide) (by rfl)

/-- The call that asks for the number of keys replies it. -/
theorem runCall_countKeys (means : B.Means [Text.encode "DBKCOUNT"] .countKeys) (line : String) :
    runCall now line [Text.encode "DBKCOUNT"]
      = (fun size => CommandResult.mk line [.integer (Int64.ofNat size)])
          <$> size (B := B) now :=
  runCall_of_builtin means rfl rfl rfl line

/-! ## From the reply to the page -/

/-- A key is read back from the value that names it, be it a text or not. -/
theorem keyOfReply_toValue (key : Key) : keyOfReply key.toValue = .ok key := by
  rw [Key.toValue, Value.ofBytes]
  cases decoded : Text.decode? key with
  | none => rfl
  | some text =>
    rw [← Text.encode_of_decode? decoded]
    rfl

theorem mapM_keyOfReply (keys : List Key) :
    (keys.map Key.toValue).mapM keyOfReply = .ok keys := by
  induction keys with
  | nil => rfl
  | cons key keys ih =>
    rw [List.map_cons, List.mapM_cons, keyOfReply_toValue, ih]
    rfl

/-- A page is read back from the reply that tells it. -/
theorem readScanReply_scanReply {next : Nat} (fits : next < Text.wordBound) (found : List Key) :
    readScanReply [Builtin.scanReply found next] = .ok (found, next) := by
  have isNext : cursorOfReply (.string (Text.natural next)) = .ok next := by
    simp only [cursorOfReply, Value.text?, Option.bind_some, Text.word?_natural fits]
  have areKeys := mapM_keyOfReply found
  simp only [readScanReply, Builtin.scanReply, List.head?_cons, Option.bind_some, Value.items?,
    isNext, areKeys, bind, Except.bind, pure, Except.pure]

/-- Loading a page of keys scans for it and counts all keys. -/
theorem loadContent_of_scan {session between : Session B} {found : List Key} {next : Nat}
    (means : B.Means (scanCall cursor pattern count) .scan) (cursorFits : cursor < Text.wordBound)
    (positive : 1 ≤ count) (countFits : count < Text.wordBound) (nextFits : next < Text.wordBound)
    (scanned : scan now cursor pattern count session = .ok (found, next) between) :
    loadContent now cursor pattern count session
      = ((fun total => Response.content (found.map Item.skeleton) next total)
          <$> size now) between := by
  have called : runCall now (scanLine cursor pattern count) (scanCall cursor pattern count) session
      = .ok ⟨scanLine cursor pattern count, [Builtin.scanReply found next]⟩ between := by
    rw [runCall_scanCall means cursorFits positive countFits, Step.map_of_ok _ scanned]
  rw [loadContent, Step.bind_of_ok called, readScanReply_scanReply nextFits]
  rfl

/-! ## Loading content -/

variable {session between : Session B}

end Session

end KeyConsole
