import KeyConsole.Proofs.OrderedMap.Counting
import KeyConsole.Proofs.Storage.Slots

/-!
# Ledgers

What a database in memory is to its callers: one map from keys to values with
their deadlines, from which an entry vanishes at the very instant its deadline is
reached.  A ledger has no shards, keeps nothing that has expired and has nothing
to clean up.
-/

namespace KeyConsole.Storage

/-- The calls that a database in memory answers. -/
inductive Call where
  | set (key value : Bytes)
  | get (key : Bytes)
  | delete (key : Bytes)
  /-- Give a key a deadline that is a number of nanoseconds away. -/
  | expire (key : Bytes) (lifetime : Nat)
  | ttl (key : Bytes)
  | sortedKeys
  | flush
  | cleanupExpired
  | len
  | isEmpty
  | figures
  deriving DecidableEq, Repr

/-- What a call says about the entries of a database.  The numbers of slots held,
of slots dropped and of calls made are left out, for they tell how a database has
been used and not what is in it. -/
inductive Answer where
  | flag (holds : Bool)
  | value (value? : Option Bytes)
  | seconds (left? : Option Int)
  | keys (keys : List Bytes)
  | figures (liveKeys usedMemory : Nat)
  | nothing
  deriving DecidableEq, Repr

/-- Whether a call leaves all entries as they are. -/
def Call.isReading : Call → Bool
  | get _ | ttl _ | sortedKeys | cleanupExpired | len | isEmpty | figures => true
  | set _ _ | delete _ | expire _ _ | flush => false

section Histories

variable {σ : Type} (perform : Instant → σ → Call → Option (Answer × σ))

/-- The answers to calls that are made in turn, each at its instant.  Nothing if
one of them breaks down. -/
def answers (state : σ) : List (Instant × Call) → Option (List Answer)
  | [] => some []
  | (now, call) :: rest =>
    (perform now state call).bind fun (answer, after) =>
      (answers after rest).map (answer :: ·)

/-- The state after calls that are made in turn. -/
def reached (state : σ) : List (Instant × Call) → Option σ
  | [] => some state
  | (now, call) :: rest => (perform now state call).bind fun (_, after) => reached after rest

/-- No call is made earlier than the one before it. -/
def Ascending (history : List (Instant × Call)) : Prop :=
  history.Pairwise fun earlier later => earlier.1 ≤ later.1

end Histories

/-- The entries of a database: values with their deadlines under their keys. -/
abbrev Ledger := OrderedMap Bytes Slot

namespace Ledger

/-- What is left of a ledger at an instant: an entry vanishes when its deadline is
reached. -/
def lasting (now : Instant) (ledger : Ledger) : Ledger :=
  ledger.filter fun _ slot => slot.deadline.all (now < ·)

/-- The whole seconds until a deadline, or minus one without one. -/
def secondsTo (now : Instant) : Option Instant → Int
  | none => -1
  | some deadline => ((deadline - now) / nanosPerSecond : Nat)

/-- The bytes that an entry is charged for. -/
def charge (key : Bytes) (slot : Slot) : Nat :=
  key.length + slot.value.length + 64

/-- Answer a call from the entries that are left.  Nothing if an entry is to get a
deadline that the clock cannot show. -/
def perform (now : Instant) (ledger : Ledger) (call : Call) : Option (Answer × Ledger) :=
  let entries := lasting now ledger
  match call with
  | .set key value => some (.flag (!entries.contains key), entries.insert key ⟨value, none⟩)
  | .get key => some (.value ((entries.get? key).map Slot.value), entries)
  | .delete key => some (.flag (entries.contains key), entries.erase key)
  | .expire key lifetime =>
    match entries.get? key with
    | none => some (.flag false, entries)
    | some slot =>
      if now + lifetime < clockEnd then
        some (.flag true, entries.insert key { slot with deadline := some (now + lifetime) })
      else none
  | .ttl key =>
    some (.seconds ((entries.get? key).map fun slot => secondsTo now slot.deadline), entries)
  | .sortedKeys => some (.keys entries.keys, entries)
  | .flush => some (.nothing, OrderedMap.empty)
  | .figures => some (.figures entries.size (entries.total charge), entries)
  | .cleanupExpired | .len | .isEmpty => some (.nothing, entries)

/-! ## What is left -/

theorem get?_lasting (now : Instant) (ledger : Ledger) (key : Bytes) :
    (lasting now ledger).get? key = (ledger.get? key).filter (·.isLive now) := by
  rw [lasting, OrderedMap.get?_filter]
  congr 1
  funext slot
  simp only [Slot.isLive, Slot.isExpired]
  cases slot.deadline with
  | none => rfl
  | some deadline => simp only [Option.all_some, ← Nat.not_le, decide_not]

theorem lasting_eq_filter (now : Instant) (ledger : Ledger) :
    lasting now ledger = ledger.filter fun _ slot => slot.isLive now := by
  apply OrderedMap.ext_get?
  intro key
  rw [get?_lasting, OrderedMap.get?_filter]

/-- What is left later is left of what is left now. -/
theorem lasting_lasting {now later : Instant} (before : now ≤ later) (ledger : Ledger) :
    lasting later (lasting now ledger) = lasting later ledger := by
  apply OrderedMap.ext_get?
  intro key
  rw [get?_lasting, get?_lasting, get?_lasting, Option.filter_filter]
  congr 1
  funext slot
  cases live : slot.isLive later with
  | false => simp
  | true => simp [Slot.isLive_of_le before live]

variable {now : Instant} {ledger other : Ledger}

/-- Entries that have vanished can be dropped. -/
theorem lasting_filter {keep : Bytes → Slot → Bool}
    (spares : ∀ key slot, slot.isLive now = true → keep key slot = true) :
    lasting now (ledger.filter keep) = lasting now ledger := by
  apply OrderedMap.ext_get?
  intro key
  rw [get?_lasting, get?_lasting, OrderedMap.get?_filter, Option.filter_filter]
  congr 1
  funext slot
  cases live : slot.isLive now with
  | false => simp
  | true => simp [spares key slot live]

/-- Storing an entry needs only the entries that are left. -/
theorem lasting_insert (same : lasting now ledger = lasting now other) (key : Bytes)
    (slot : Slot) : lasting now (ledger.insert key slot) = lasting now (other.insert key slot) := by
  apply OrderedMap.ext_get?
  intro name
  have here := congrArg (·.get? name) same
  simp only [get?_lasting] at here
  simp only [get?_lasting, OrderedMap.get?_insert]
  split
  · rfl
  · exact here

/-- Removing an entry needs only the entries that are left. -/
theorem lasting_erase (same : lasting now ledger = lasting now other) (key : Bytes) :
    lasting now (ledger.erase key) = lasting now (other.erase key) := by
  apply OrderedMap.ext_get?
  intro name
  have here := congrArg (·.get? name) same
  simp only [get?_lasting] at here
  simp only [get?_lasting, OrderedMap.get?_erase]
  split
  · rfl
  · exact here

/-! ## Answers -/

/-- A call asks for nothing but the entries that are left. -/
theorem perform_lasting {later : Instant} (before : now ≤ later) (call : Call) :
    perform later (lasting now ledger) call = perform later ledger call := by
  simp only [perform, lasting_lasting before]

theorem answers_lasting {rest : List (Instant × Call)} (after : ∀ timed ∈ rest, now ≤ timed.1) :
    answers perform (lasting now ledger) rest = answers perform ledger rest := by
  cases rest with
  | nil => rfl
  | cons timed rest => simp only [answers, perform_lasting (after timed List.mem_cons_self)]

variable (now ledger) in
/-- A reading call leaves what is left. -/
theorem perform_of_isReading {call : Call} (reading : call.isReading = true) :
    ∃ answer, perform now ledger call = some (answer, lasting now ledger) := by
  cases call <;> first | exact ⟨_, rfl⟩ | cases reading

/-- Leaving out a reading call leaves out its answer and changes no other. -/
theorem answers_eraseIdx {history : List (Instant × Call)} {index : Nat} {call : Call}
    (ascending : Ascending history) (made : history[index]? = some (now, call))
    (reading : call.isReading = true) :
    (answers perform ledger history).map (·.eraseIdx index)
      = answers perform ledger (history.eraseIdx index) := by
  induction history generalizing ledger index with
  | nil => cases made
  | cons timed rest ih =>
    obtain ⟨after, ascendingRest⟩ := List.pairwise_cons.1 ascending
    cases index with
    | zero =>
      cases made
      obtain ⟨answer, answered⟩ := perform_of_isReading now ledger reading
      simp [answers, answered, answers_lasting after, Function.comp_def]
    | succ index =>
      simp only [List.eraseIdx_cons_succ, answers]
      cases perform timed.1 ledger timed.2 with
      | none => rfl
      | some answered =>
        simp only [Option.bind_some, ← ih ascendingRest made, Option.map_map]
        rfl

/-- Every call is answered if the clock can show what it asks for. -/
theorem exists_answers {history : List (Instant × Call)}
    (fits : ∀ now key lifetime, (now, Call.expire key lifetime) ∈ history →
      now + lifetime < clockEnd) :
    ∃ answered, answers perform ledger history = some answered := by
  induction history generalizing ledger with
  | nil => exact ⟨[], rfl⟩
  | cons timed rest ih =>
    rcases timed with ⟨now, call⟩
    have made : ∃ answer after, perform now ledger call = some (answer, after) := by
      cases call with
      | expire key lifetime =>
        have shown := fits now key lifetime List.mem_cons_self
        simp only [perform, shown, if_true]
        cases (lasting now ledger).get? key <;> exact ⟨_, _, rfl⟩
      | _ => exact ⟨_, _, rfl⟩
    obtain ⟨answer, after, answered⟩ := made
    have fitsRest : ∀ now key lifetime, (now, Call.expire key lifetime) ∈ rest →
        now + lifetime < clockEnd :=
      fun now key lifetime mem => fits now key lifetime (List.mem_cons_of_mem _ mem)
    obtain ⟨others, answeredRest⟩ := @ih after fitsRest
    exact ⟨answer :: others, by simp [answers, answered, answeredRest]⟩

end Ledger

end KeyConsole.Storage
