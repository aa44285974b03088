import KeyConsole.Proofs.Storage.Contents
import KeyConsole.Proofs.Storage.Ledger

/-!
# A sharded database as a ledger

However the keys are routed, a database in memory answers calls as a ledger does.
It may hold slots that a ledger has long dropped, but when the clock never goes back
nothing that it answers tells which of them it still holds.
-/

namespace KeyConsole.Storage.Engine

open Ledger (lasting)

/-- Answer a call.  Nothing if the clock cannot show a deadline. -/
def perform (now : Instant) (engine : Engine) (call : Call) : Option (Answer × Engine) :=
  match call with
  | .set key value =>
    let (isNew, after) := engine.set now key value
    some (.flag isNew, after)
  | .get key =>
    let (value?, after) := engine.get now key
    some (.value value?, after)
  | .delete key =>
    let (found, after) := engine.delete now key
    some (.flag found, after)
  | .expire key lifetime =>
    (engine.expireAfter now key lifetime).map fun (found, after) => (.flag found, after)
  | .ttl key =>
    let (left?, after) := engine.ttl now key
    some (.seconds left?, after)
  | .sortedKeys => some (.keys (engine.sortedKeys now), engine)
  | .flush => some (.nothing, engine.flush)
  | .cleanupExpired => some (.nothing, (engine.cleanupExpired now).2)
  | .figures =>
    let figures := engine.figures now
    some (.figures figures.liveKeys figures.usedMemory, engine)
  | .len | .isEmpty => some (.nothing, engine)

/-- At an instant a database has, besides expired slots, just the entries of a ledger. -/
def Tracks (now : Instant) (engine : Engine) (ledger : Ledger) : Prop :=
  ∃ map, engine.Represents map ∧ lasting now map = lasting now ledger

/-- Two answers agree, and the database goes on having the entries of the ledger. -/
def AnswersAlike (now : Instant) (made : Answer × Engine) (expected : Answer × Ledger) : Prop :=
  made.1 = expected.1 ∧ Tracks now made.2 expected.2

variable {engine : Engine} {ledger : Ledger} {now later : Instant}

theorem tracks_empty (route : Bytes → Fin shardCount) (now : Instant) :
    Tracks now (empty route) OrderedMap.empty :=
  ⟨OrderedMap.empty, represents_empty route, rfl⟩

theorem Tracks.of_le (tracks : Tracks now engine ledger) (before : now ≤ later) :
    Tracks later engine ledger := by
  obtain ⟨map, represents, same⟩ := tracks
  refine ⟨map, represents, ?_⟩
  rw [← Ledger.lasting_lasting before, same, Ledger.lasting_lasting before]

/-- What is seen for a key is its entry in the ledger. -/
theorem Tracks.seen?_eq (tracks : Tracks now engine ledger) (key : Bytes) :
    engine.seen? now key = (lasting now ledger).get? key := by
  obtain ⟨map, represents, same⟩ := tracks
  rw [← same, Ledger.get?_lasting, seen?, represents.slot]

/-- Entries that have vanished do not matter. -/
theorem tracks_lasting (tracks : Tracks now engine ledger) :
    Tracks now engine (lasting now ledger) := by
  obtain ⟨map, represents, same⟩ := tracks
  exact ⟨map, represents, same.trans (Ledger.lasting_lasting (Nat.le_refl now) ledger).symm⟩

/-- Looking at a key leaves the entries. -/
theorem lasting_visited (key : Bytes) (map : OrderedMap Bytes Slot) :
    lasting now (visited now key map) = lasting now map := by
  apply Ledger.lasting_filter
  intro other slot live
  simp [live]

/-! ## One call -/

/-- Every call is answered alike, at the instant of a deadline too. -/
theorem perform_alike (tracks : Tracks now engine ledger) (call : Call) :
    Option.Rel (AnswersAlike now) (engine.perform now call) (Ledger.perform now ledger call) := by
  have seen := tracks.seen?_eq
  have left := tracks_lasting tracks
  obtain ⟨map, represents, same⟩ := left
  have listed : map.filter (fun _ slot => slot.isLive now) = lasting now ledger := by
    rw [← Ledger.lasting_eq_filter, same, Ledger.lasting_lasting (Nat.le_refl now)]
  have visits (key : Bytes) :
      lasting now (visited now key map)
        = lasting now (lasting now ledger) :=
    (lasting_visited key map).trans same
  cases call with
  | set key value =>
    have isNew : (engine.set now key value).1 = !(lasting now ledger).contains key := by
      rw [set_fst, seen, OrderedMap.contains, Option.not_isSome]
    exact .some ⟨congrArg Answer.flag isNew, _, represents.set now key value,
      Ledger.lasting_insert same key _⟩
  | get key =>
    have value : (engine.get now key).1
        = ((lasting now ledger).get? key).map Slot.value := by
      rw [get_fst, seen]
    exact .some ⟨congrArg Answer.value value, _, represents.get now key, visits key⟩
  | delete key =>
    have found : (engine.delete now key).1 = (lasting now ledger).contains key := by
      rw [delete_fst, seen, OrderedMap.contains]
    exact .some ⟨congrArg Answer.flag found, _, represents.delete now key,
      Ledger.lasting_erase same key⟩
  | expire key lifetime =>
    simp only [Engine.perform, Ledger.perform, expireAfter_eq, seen]
    cases entry : (lasting now ledger).get? key with
    | none => exact .some ⟨rfl, _, represents.liveSlot now key, visits key⟩
    | some slot =>
      have held : map.get? key = some slot := by
        rw [← represents.slot]
        exact (Option.filter_eq_some_iff.1 ((seen key).trans entry)).1
      by_cases shown : now + lifetime < clockEnd
      · simp only [shown, if_true]
        exact .some ⟨rfl, _, represents.insert held _, Ledger.lasting_insert same key _⟩
      · simp only [shown, if_false]
        exact .none
  | ttl key =>
    have left : (engine.ttl now key).1
        = ((lasting now ledger).get? key).map fun slot =>
            Ledger.secondsTo now slot.deadline := by
      rw [ttl_fst, seen]
      congr 1
      funext slot
      simp only [Slot.secondsLeft]
      cases slot.deadline <;> rfl
    exact .some ⟨congrArg Answer.seconds left, _, represents.liveSlot now key, visits key⟩
  | sortedKeys =>
    have keys : engine.sortedKeys now = (lasting now ledger).keys := by
      rw [represents.sortedKeys_eq, listed]
    exact .some ⟨congrArg Answer.keys keys, tracks_lasting tracks⟩
  | flush => exact .some ⟨rfl, _, represents_flush engine, rfl⟩
  | cleanupExpired =>
    have kept := represents.cleanupExpired now
    rw [listed] at kept
    exact .some ⟨rfl, _, kept, rfl⟩
  | len => exact .some ⟨rfl, tracks_lasting tracks⟩
  | isEmpty => exact .some ⟨rfl, tracks_lasting tracks⟩
  | figures =>
    have live : (engine.figures now).liveKeys = (lasting now ledger).size := by
      rw [← listed]
      exact (represents.liveEntries_perm now).length_eq
    have used := represents.usedMemory_eq now
    rw [listed] at used
    exact .some ⟨congrArg₂ Answer.figures live used, tracks_lasting tracks⟩

/-! ## Calls in turn -/

/-- Calls in turn are answered alike when the clock never goes back. -/
theorem Tracks.answers_eq (tracks : Tracks now engine ledger) {history : List (Instant × Call)}
    (ascending : Ascending history) (after : ∀ timed ∈ history, now ≤ timed.1) :
    answers perform engine history = answers Ledger.perform ledger history := by
  induction history generalizing engine ledger now with
  | nil => rfl
  | cons timed rest ih =>
    obtain ⟨afterRest, ascendingRest⟩ := List.pairwise_cons.1 ascending
    have alike := perform_alike (tracks.of_le (after timed List.mem_cons_self)) timed.2
    simp only [answers]
    generalize engine.perform timed.1 timed.2 = made at alike ⊢
    generalize Ledger.perform timed.1 ledger timed.2 = expected at alike ⊢
    cases alike with
    | none => rfl
    | some alike =>
      obtain ⟨sameAnswer, tracksRest⟩ := alike
      simp only [Option.bind_some, sameAnswer, ih tracksRest ascendingRest afterRest]

/-- After any call a database holds the slots of one map again. -/
theorem represents_of_perform {map : OrderedMap Bytes Slot} {call : Call} {answer : Answer}
    {after : Engine} (represents : engine.Represents map)
    (made : engine.perform now call = some (answer, after)) : ∃ map, after.Represents map := by
  have tracks : Tracks now engine map := ⟨map, represents, rfl⟩
  have alike := perform_alike tracks call
  rw [made] at alike
  generalize Ledger.perform now map call = expected at alike
  cases alike with
  | some alike =>
    obtain ⟨_, next, representsNext, _⟩ := alike
    exact ⟨next, representsNext⟩

/-- Whatever is asked, a database holds the slots of one map. -/
theorem represents_of_reached {history : List (Instant × Call)} {map : OrderedMap Bytes Slot}
    {after : Engine} (represents : engine.Represents map)
    (made : reached perform engine history = some after) : ∃ map, after.Represents map := by
  induction history generalizing engine map with
  | nil =>
    cases made
    exact ⟨map, represents⟩
  | cons timed rest ih =>
    obtain ⟨⟨answer, next⟩, answered, madeRest⟩ := Option.bind_eq_some_iff.1 made
    obtain ⟨mapNext, representsNext⟩ := represents_of_perform represents answered
    exact ih representsNext madeRest

/-- What is seen decides all answers to come. -/
theorem Represents.answers_eq {map mapToo : OrderedMap Bytes Slot} {other : Engine}
    (represents : engine.Represents map) (representsToo : other.Represents mapToo)
    (sameSeen : ∀ key, engine.seen? now key = other.seen? now key)
    {rest : List (Instant × Call)} (ascending : Ascending rest)
    (after : ∀ timed ∈ rest, now ≤ timed.1) :
    answers perform engine rest = answers perform other rest := by
  have tracks : Tracks now engine map := ⟨map, represents, rfl⟩
  have tracksToo : Tracks now other mapToo := ⟨mapToo, representsToo, rfl⟩
  have same : lasting now map = lasting now mapToo := by
    apply OrderedMap.ext_get?
    intro key
    rw [← tracks.seen?_eq, sameSeen, tracksToo.seen?_eq]
  calc answers perform engine rest
      = answers Ledger.perform (lasting now map) rest :=
        (tracks_lasting tracks).answers_eq ascending after
    _ = answers Ledger.perform (lasting now mapToo) rest := by rw [same]
    _ = answers perform other rest := ((tracks_lasting tracksToo).answers_eq ascending after).symm

/-- A database in memory answers as a ledger does, whatever shard a key is given: calls
that are made in turn are all answered unless a deadline is beyond the clock, and alike;
leaving out a reading call changes no other answer; and neither do slots that have expired,
held or dropped, or the shards. -/
theorem answers_eq_ledger (route : Bytes → Fin shardCount) (history : List (Instant × Call))
    (ascending : Ascending history) :
    answers perform (empty route) history = answers Ledger.perform OrderedMap.empty history
    ∧ ((∀ now key lifetime, (now, Call.expire key lifetime) ∈ history →
          now + lifetime < clockEnd) →
        ∃ answered, answers perform (empty route) history = some answered)
    ∧ (∀ index now call, history[index]? = some (now, call) → call.isReading = true →
        (answers perform (empty route) history).map (·.eraseIdx index)
          = answers perform (empty route) (history.eraseIdx index))
    ∧ ∀ routeToo historyToo engine other now rest,
        reached perform (empty route) history = some engine →
        reached perform (empty routeToo) historyToo = some other →
        (∀ key, engine.seen? now key = other.seen? now key) →
        Ascending rest → (∀ timed ∈ rest, now ≤ timed.1) →
        answers perform engine rest = answers perform other rest := by
  have alike {history : List (Instant × Call)} (ascending : Ascending history) :
      answers perform (empty route) history
        = answers Ledger.perform OrderedMap.empty history :=
    (tracks_empty route 0).answers_eq ascending fun _ _ => Nat.zero_le _
  refine ⟨alike ascending, ?_, ?_, ?_⟩
  · intro fits
    rw [alike ascending]
    exact Ledger.exists_answers fits
  · intro index now call made reading
    rw [alike ascending, alike (ascending.sublist (List.eraseIdx_sublist history index))]
    exact Ledger.answers_eraseIdx ascending made reading
  · intro routeToo historyToo engine other now rest made madeToo sameSeen ascendingRest after
    obtain ⟨map, represents⟩ := represents_of_reached (represents_empty route) made
    obtain ⟨mapToo, representsToo⟩ := represents_of_reached (represents_empty routeToo) madeToo
    exact represents.answers_eq representsToo sameSeen ascendingRest after

/-- A key that is met at its deadline, stored again and gone with all others. -/
def lapse : List (Instant × Call) :=
  [(0, .set [107] [1]), (0, .expire [107] nanosPerSecond), (1, .ttl [107]),
    (nanosPerSecond, .get [107]), (nanosPerSecond, .delete [107]),
    (nanosPerSecond, .set [107] [2, 3]), (nanosPerSecond, .sortedKeys),
    (nanosPerSecond, .figures), (nanosPerSecond, .flush)]

/-- At the instant of its deadline an entry is gone and can be stored anew. -/
theorem answers_eq_ledger_lapse :
    answers perform (empty spread) lapse
      = some [.flag true, .flag true, .seconds (some 0), .value none, .flag false, .flag true,
          .keys [[107]], .figures 1 67, .nothing]
    ∧ answers perform (empty spread) (lapse.eraseIdx 3)
      = some [.flag true, .flag true, .seconds (some 0), .flag false, .flag true,
          .keys [[107]], .figures 1 67, .nothing]
    ∧ ∃ engine, reached perform (empty spread) lapse = some engine
      ∧ answers perform engine [(nanosPerSecond, .set [107] [])] = some [.flag true] := by
  have ascending : Ascending lapse := by
    simp [Ascending, lapse, nanosPerSecond]
  obtain ⟨alike, _, without, onward⟩ := answers_eq_ledger spread lapse ascending
  refine ⟨alike.trans (by rfl), ?_, ?_⟩
  · rw [← without 3 nanosPerSecond (.get [107]) rfl rfl, alike]
    rfl
  · obtain ⟨engine, flushed⟩ : ∃ engine : Engine,
        reached perform (empty spread) lapse = some engine.flush := ⟨_, rfl⟩
    refine ⟨engine.flush, flushed, ?_⟩
    have rest : Ascending [(nanosPerSecond, Call.set [107] [])] := List.pairwise_singleton _ _
    rw [onward (fun _ => spread []) [] engine.flush (empty fun _ => spread []) nanosPerSecond _
      flushed rfl (by simp [seen?, slot?_flush]) rest (by simp)]
    rfl

end KeyConsole.Storage.Engine
