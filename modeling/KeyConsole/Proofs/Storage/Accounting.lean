import Mathlib.Data.List.Basic
import KeyConsole.Proofs.Storage.Refinement

/-!
# The accounts of a sharded database

The number of slots held is kept by hand, apart from the shards.  A slot comes in when
a key that was absent is stored, and goes out when a live key is removed, when it is met
after its deadline, or with all others.  So every slot that came in is held or has gone
out in one of these ways, and nothing is ever taken off that was not there.
-/

namespace KeyConsole.Storage

/-! ## Calls and their answers -/

namespace Call

/-- Whether a value is asked for. -/
def isGet : Call → Bool
  | get _ => true
  | _ => false

/-- Whether a value is stored. -/
def isSet : Call → Bool
  | set _ _ => true
  | _ => false

/-- Whether a key is to be removed. -/
def isDelete : Call → Bool
  | delete _ => true
  | _ => false

/-- Whether a value was stored under a key that was absent or had expired. -/
def creates : Call × Answer → Bool
  | (set _ _, .flag true) => true
  | _ => false

/-- Whether a live key was removed. -/
def removes : Call × Answer → Bool
  | (delete _, .flag true) => true
  | _ => false

end Call

open Call

/-! ## Counters -/

/-- How many slots are accounted for by being held or by having expired. -/
def Counters.booked (counters : Counters) : Nat :=
  counters.keys + counters.expired

/-- No number has grown beyond a bound. -/
structure Counters.Within (counters : Counters) (bound : Nat) : Prop where
  keys : counters.keys ≤ bound
  gets : counters.gets ≤ bound
  sets : counters.sets ≤ bound
  dels : counters.dels ≤ bound
  expired : counters.expired ≤ bound

/-- What is counted before and after some calls with their answers, when flushes have
discarded a number of slots. -/
structure Balanced (before : Counters) (made : List (Call × Answer)) (discarded : Nat)
    (after : Counters) : Prop where
  booked : after.booked + made.countP removes + discarded = before.booked + made.countP creates
  gets : after.gets = before.gets + made.countP (·.1.isGet)
  sets : after.sets = before.sets + made.countP (·.1.isSet)
  dels : after.dels = before.dels + made.countP (·.1.isDelete)

namespace Balanced

variable {before between after counters : Counters} {made : List (Call × Answer)}
  {discarded more n : Nat}

theorem nil : Balanced counters [] 0 counters :=
  ⟨rfl, rfl, rfl, rfl⟩

/-- One call after another. -/
theorem cons {pair : Call × Answer} (first : Balanced before [pair] discarded between)
    (rest : Balanced between made more after) :
    Balanced before (pair :: made) (discarded + more) after := by
  have one (holds : Call × Answer → Bool) :
      (pair :: made).countP holds = [pair].countP holds + made.countP holds := by
    rw [← List.singleton_append, List.countP_append]
  constructor
  · have booked := first.booked
    have bookedRest := rest.booked
    rw [one, one]
    omega
  · rw [rest.gets, first.gets, one, Nat.add_assoc]
  · rw [rest.sets, first.sets, one, Nat.add_assoc]
  · rw [rest.dels, first.dels, one, Nat.add_assoc]

/-- Slots that are held may turn into slots that have expired. -/
theorem expire (balanced : Balanced before made discarded after) (enough : n ≤ after.keys) :
    Balanced before made discarded (after.expire n) := by
  have keys : (after.expire n).keys = after.keys - n :=
    Counters.keys_release (Nat.sub_add_cancel enough).symm
  have booked : (after.expire n).booked = after.booked := by
    change (after.expire n).keys + (after.expired + n) = after.keys + after.expired
    omega
  exact ⟨booked ▸ balanced.booked, balanced.gets, balanced.sets, balanced.dels⟩

/-- Counting from zero, no number outgrows the number of calls. -/
theorem within (balanced : Balanced {} made discarded after) : after.Within made.length := by
  have created : made.countP creates ≤ made.length := List.countP_le_length
  have booked := balanced.booked
  change after.keys + after.expired + _ + _ = 0 + 0 + _ at booked
  have counted {n : Nat} {holds : Call × Answer → Bool} (isCount : n = 0 + made.countP holds) :
      n ≤ made.length := by
    rw [isCount, Nat.zero_add]
    exact List.countP_le_length
  constructor
  · omega
  · exact counted balanced.gets
  · exact counted balanced.sets
  · exact counted balanced.dels
  · omega

end Balanced

namespace Engine

variable {engine after : Engine} {map : OrderedMap Bytes Slot} {now : Instant} {key : Bytes}

/-! ## Slots that are held -/

theorem Represents.len_eq (represents : engine.Represents map) :
    engine.len = engine.entries.length :=
  represents.counted.trans represents.entries_perm.length_eq.symm

/-- A key that has a slot is counted. -/
theorem Represents.one_le_len (represents : engine.Represents map) {slot : Slot}
    (held : engine.slot? key = some slot) : 1 ≤ engine.len := by
  have size := map.size_erase_add_one ((represents.slot key).symm.trans held)
  have counted : engine.len = (map.erase key).size + 1 := represents.counted.trans size.symm
  exact counted ▸ Nat.le_add_left 1 _

/-- No more slots have expired than are counted. -/
theorem Represents.cleanupExpired_le_len (represents : engine.Represents map) (now : Instant) :
    (engine.cleanupExpired now).1 ≤ engine.len := by
  rw [represents.len_eq]
  exact List.length_filter_le _ _

/-- Looking at a key takes off no more than is held. -/
theorem Represents.counters_liveSlot (represents : engine.Represents map) (now : Instant)
    (key : Bytes) :
    (engine.liveSlot now key).2.counters = engine.counters
    ∨ 1 ≤ engine.len ∧ (engine.liveSlot now key).2.counters = engine.counters.expire 1 := by
  unfold Engine.liveSlot
  cases held : engine.slot? key with
  | none => exact .inl rfl
  | some slot =>
    dsimp only
    split
    · exact .inr ⟨represents.one_le_len held, rfl⟩
    · exact .inl rfl

/-! ## One call -/

/-- How many slots a call discards, whatever their deadlines. -/
def discards (engine : Engine) : Call → Nat
  | .flush => engine.entries.length
  | _ => 0

/-- Looking at a key keeps the balance. -/
theorem Represents.balanced_liveSlot (represents : engine.Represents map)
    {before : Counters} {made : List (Call × Answer)} {discarded : Nat}
    (balanced : Balanced before made discarded engine.counters) (now : Instant) (key : Bytes) :
    Balanced before made discarded (engine.liveSlot now key).2.counters := by
  rcases represents.counters_liveSlot now key with same | ⟨enough, dropped⟩
  · rw [same]
    exact balanced
  · rw [dropped]
    exact balanced.expire enough

theorem Represents.balanced_get (represents : engine.Represents map) (now : Instant)
    (key : Bytes) (answer : Answer) :
    Balanced engine.counters [(.get key, answer)] 0 (engine.get now key).2.counters := by
  let asked := engine.count fun c => { c with gets := c.gets + 1 }
  have represents : asked.Represents map := ⟨represents.toHolds.count _, represents.counted⟩
  have balanced : Balanced engine.counters [(.get key, answer)] 0 asked.counters :=
    ⟨rfl, rfl, rfl, rfl⟩
  exact represents.balanced_liveSlot balanced now key

theorem balanced_set (engine : Engine) (now : Instant) (key value : Bytes) :
    Balanced engine.counters [(.set key value, .flag (engine.set now key value).1)] 0
      (engine.set now key value).2.counters := by
  unfold Engine.set
  cases engine.slot? key with
  | none =>
    refine ⟨?_, rfl, rfl, rfl⟩
    exact Nat.add_right_comm engine.counters.keys 1 engine.counters.expired
  | some slot =>
    dsimp only
    split
    · exact ⟨rfl, rfl, rfl, rfl⟩
    · exact ⟨rfl, rfl, rfl, rfl⟩

theorem Represents.balanced_delete (represents : engine.Represents map) (now : Instant)
    (key : Bytes) :
    Balanced engine.counters [(.delete key, .flag (engine.delete now key).1)] 0
      (engine.delete now key).2.counters := by
  unfold Engine.delete
  cases held : engine.slot? key with
  | none => exact ⟨rfl, rfl, rfl, rfl⟩
  | some slot =>
    have enough : 1 ≤ engine.counters.keys := represents.one_le_len held
    dsimp only
    split
    · exact Balanced.expire ⟨rfl, rfl, rfl, rfl⟩ enough
    · have left : (engine.counters.release 1).keys = engine.counters.keys - 1 :=
        Counters.keys_release (Nat.sub_add_cancel enough).symm
      refine ⟨?_, rfl, rfl, rfl⟩
      change (engine.counters.release 1).keys + engine.counters.expired + 1
        = engine.counters.keys + engine.counters.expired
      omega

theorem Represents.balanced_expireAfter (represents : engine.Represents map) {lifetime : Nat}
    {found : Bool} (expired : engine.expireAfter now key lifetime = some (found, after))
    (answer : Answer) :
    Balanced engine.counters [(.expire key lifetime, answer)] 0 after.counters := by
  have balanced : Balanced engine.counters [(.expire key lifetime, answer)] 0 engine.counters :=
    ⟨rfl, rfl, rfl, rfl⟩
  rw [expireAfter_eq] at expired
  split at expired
  · cases expired
    exact represents.balanced_liveSlot balanced now key
  · split at expired
    · cases expired
      exact balanced
    · cases expired

/-- Every call that is answered keeps the balance. -/
theorem Represents.balanced_perform (represents : engine.Represents map) {call : Call}
    {answer : Answer} (made : engine.perform now call = some (answer, after)) :
    Balanced engine.counters [(call, answer)] (engine.discards call) after.counters := by
  cases call with
  | set key value =>
    cases made
    exact engine.balanced_set now key value
  | get key =>
    cases made
    exact represents.balanced_get now key _
  | delete key =>
    cases made
    exact represents.balanced_delete now key
  | expire key lifetime =>
    obtain ⟨⟨found, _⟩, expired, same⟩ := Option.map_eq_some_iff.1 made
    cases same
    exact represents.balanced_expireAfter expired _
  | ttl key =>
    cases made
    exact represents.balanced_liveSlot ⟨rfl, rfl, rfl, rfl⟩ now key
  | flush =>
    cases made
    refine ⟨?_, rfl, rfl, rfl⟩
    have held : engine.counters.keys = engine.entries.length := represents.len_eq
    change 0 + engine.counters.expired + 0 + engine.entries.length
      = engine.counters.keys + engine.counters.expired
    omega
  | cleanupExpired =>
    cases made
    exact Balanced.expire ⟨rfl, rfl, rfl, rfl⟩ (represents.cleanupExpired_le_len now)
  | sortedKeys | len | isEmpty | figures =>
    cases made
    exact ⟨rfl, rfl, rfl, rfl⟩

/-- A call is answered if the clock can show what it asks for. -/
theorem exists_perform {call : Call}
    (fits : ∀ key lifetime, call = .expire key lifetime → now + lifetime < clockEnd) :
    ∃ answer after, engine.perform now call = some (answer, after) := by
  cases call with
  | expire key lifetime =>
    have shown := fits key lifetime rfl
    simp only [perform, expireAfter_eq, shown, if_true]
    cases engine.seen? now key with
    | none => exact ⟨_, _, rfl⟩
    | some slot => exact ⟨_, _, rfl⟩
  | _ => exact ⟨_, _, rfl⟩

/-! ## Calls in turn -/

/-- How many slots the flushes of a history discard. -/
def discarded (engine : Engine) : List (Instant × Call) → Nat
  | [] => 0
  | (now, call) :: rest =>
    engine.discards call
      + (engine.perform now call).elim 0 fun (_, after) => after.discarded rest

/-- The calls of a history, each with its answer. -/
def answeredCalls (history : List (Instant × Call)) (answered : List Answer) :
    List (Call × Answer) :=
  (history.map Prod.snd).zip answered

/-- Calls that are made in turn are all answered and keep the balance. -/
theorem Represents.balanced_of_fits (represents : engine.Represents map)
    {history : List (Instant × Call)}
    (fits : ∀ now key lifetime, (now, Call.expire key lifetime) ∈ history →
      now + lifetime < clockEnd) :
    ∃ answered after map, answers perform engine history = some answered
      ∧ reached perform engine history = some after ∧ after.Represents map
      ∧ Balanced engine.counters (answeredCalls history answered) (engine.discarded history)
          after.counters := by
  induction history generalizing engine map with
  | nil => exact ⟨[], engine, map, rfl, rfl, represents, Balanced.nil⟩
  | cons timed rest ih =>
    obtain ⟨now, call⟩ := timed
    obtain ⟨answer, between, made⟩ := @exists_perform engine now call
      fun key lifetime same => fits now key lifetime (same ▸ List.mem_cons_self)
    obtain ⟨mapBetween, representsBetween⟩ := represents_of_perform represents made
    obtain ⟨answered, after, mapAfter, answeredRest, reachedRest, representsAfter, balanced⟩ :=
      ih representsBetween fun now key lifetime mem =>
        fits now key lifetime (List.mem_cons_of_mem _ mem)
    refine ⟨answer :: answered, after, mapAfter, ?_, ?_, representsAfter, ?_⟩
    · simp only [answers, made, Option.bind_some, answeredRest, Option.map_some]
    · simp only [reached, made, Option.bind_some, reachedRest]
    · have first := represents.balanced_perform made
      simp only [discarded, made, Option.elim_some]
      exact first.cons balanced

/-! ## The accounts -/

/-- What a cleanup at an instant comes to. -/
structure CleansUp (engine : Engine) (now : Instant) (dropped : Nat) (after : Engine) : Prop where
  expired : after.counters.expired = engine.counters.expired + dropped
  liveKeys : after.len = (after.figures now).liveKeys
  sortedKeys : after.len = (after.sortedKeys now).length
  again : (after.cleanupExpired now).1 = 0

/-- The accounts of a database that was empty before some calls were made. -/
structure Accounts (made : List (Call × Answer)) (discarded : Nat) (engine : Engine) :
    Prop where
  /-- As many slots are counted as lie in the shards. -/
  len_eq : engine.len = engine.entries.length
  isEmpty_iff : engine.isEmpty = true ↔ engine.entries = []
  /-- Taking off a slot that is held does not wrap around. -/
  release_slot : ∀ key slot, engine.slot? key = some slot →
    (engine.counters.release 1).keys + 1 = engine.len
  /-- Nor does taking off all slots that have expired. -/
  release_expired : ∀ now, (engine.counters.release (engine.cleanupExpired now).1).keys
    + (engine.cleanupExpired now).1 = engine.len
  /-- Every slot that came in is held or has gone out. -/
  created : made.countP creates
    = made.countP removes + engine.counters.expired + discarded + engine.len
  cleanup : ∀ now, engine.CleansUp now (engine.cleanupExpired now).1 (engine.cleanupExpired now).2
  getOps : ∀ now, (engine.figures now).getOps = made.countP (·.1.isGet)
  setOps : ∀ now, (engine.figures now).setOps = made.countP (·.1.isSet)
  delOps : ∀ now, (engine.figures now).delOps = made.countP (·.1.isDelete)
  /-- No number outgrows the number of calls. -/
  within : engine.counters.Within made.length

/-- A cleanup leaves nothing that has expired. -/
theorem Represents.cleansUp (represents : engine.Represents map) (now : Instant) :
    engine.CleansUp now (engine.cleanupExpired now).1 (engine.cleanupExpired now).2 := by
  have cleaned := represents.cleanupExpired now
  generalize swept : (engine.cleanupExpired now).2 = after at cleaned
  let live := map.filter fun _ slot => slot.isLive now
  have allLive : live.filter (fun _ slot => slot.isLive now) = live :=
    live.filter_eq_self fun _ _ held => by
      rw [OrderedMap.get?_filter] at held
      exact (Option.filter_eq_some_iff.1 held).2
  have liveKeys : (after.figures now).liveKeys = live.size :=
    (cleaned.liveEntries_perm now).length_eq.trans (congrArg OrderedMap.size allLive)
  constructor
  · exact swept ▸ rfl
  · exact cleaned.counted.trans liveKeys.symm
  · rw [after.length_sortedKeys]
    exact cleaned.counted.trans liveKeys.symm
  · refine List.length_eq_zero_iff.2 (List.filter_eq_nil_iff.2 ?_)
    intro entry mem
    have kept := (List.mem_filter.1 (cleaned.mem_entries_iff.1 mem)).2
    simpa [Slot.isLive] using kept

theorem Represents.isEmpty_iff (represents : engine.Represents map) :
    engine.isEmpty = true ↔ engine.entries = [] := by
  rw [isEmpty, beq_iff_eq, represents.len_eq, List.length_eq_zero_iff]

/-- Calls that are made in turn on a database that was empty are answered unless a
deadline is beyond the clock, and its accounts are exact whatever shard a key is given. -/
theorem accounts_exact (route : Bytes → Fin shardCount) (history : List (Instant × Call))
    (fits : ∀ now key lifetime, (now, Call.expire key lifetime) ∈ history →
      now + lifetime < clockEnd) :
    ∃ answered engine, answers perform (empty route) history = some answered
      ∧ reached perform (empty route) history = some engine
      ∧ engine.Accounts (answeredCalls history answered) ((empty route).discarded history) := by
  obtain ⟨answered, engine, map, told, made, represents, balanced⟩ :=
    (represents_empty route).balanced_of_fits fits
  refine ⟨answered, engine, told, made, ?_⟩
  have released {n : Nat} (enough : n ≤ engine.len) :
      (engine.counters.release n).keys + n = engine.len := by
    have keys := Counters.keys_release (Nat.sub_add_cancel enough).symm
    rw [keys]
    exact Nat.sub_add_cancel enough
  constructor
  · exact represents.len_eq
  · exact represents.isEmpty_iff
  · exact fun _ _ held => released (represents.one_le_len held)
  · exact fun now => released (represents.cleanupExpired_le_len now)
  · have booked := balanced.booked
    change engine.len + engine.counters.expired + _ + _ = 0 + 0 + _ at booked
    omega
  · exact represents.cleansUp
  · exact fun _ => balanced.gets.trans (Nat.zero_add _)
  · exact fun _ => balanced.sets.trans (Nat.zero_add _)
  · exact fun _ => balanced.dels.trans (Nat.zero_add _)
  · exact balanced.within

/-- Slots that go out in every way: stored over after a deadline, removed, discarded with
all others and swept after a deadline.  One is left. -/
def turnover : List (Instant × Call) :=
  [(0, .set [107] [1]), (0, .expire [107] nanosPerSecond), (nanosPerSecond, .set [107] [2]),
    (nanosPerSecond, .delete [107]), (nanosPerSecond, .set [108] []), (nanosPerSecond, .flush),
    (nanosPerSecond, .set [109] []), (nanosPerSecond, .expire [109] 0),
    (nanosPerSecond, .cleanupExpired), (nanosPerSecond, .set [110] [])]

/-- Of five slots that came in one was removed, two expired, one was discarded and one is
held. -/
theorem accounts_exact_turnover :
    ∃ answered engine, answers perform (empty spread) turnover = some answered
      ∧ reached perform (empty spread) turnover = some engine
      ∧ (answeredCalls turnover answered).countP creates = 5
      ∧ (answeredCalls turnover answered).countP removes = 1
      ∧ engine.counters.expired = 2 ∧ (empty spread).discarded turnover = 1
      ∧ engine.len = 1 ∧ (engine.figures nanosPerSecond).setOps = 5 := by
  have fits : ∀ now key lifetime, (now, Call.expire key lifetime) ∈ turnover →
      now + lifetime < clockEnd := by
    rintro now key lifetime mem
    obtain ⟨rfl, _, rfl⟩ | ⟨rfl, _, rfl⟩ : (now = 0 ∧ key = [107] ∧ lifetime = nanosPerSecond)
        ∨ (now = nanosPerSecond ∧ key = [109] ∧ lifetime = 0) := by simpa [turnover] using mem
    · decide
    · decide
  obtain ⟨answered, engine, told, made, accounts⟩ := accounts_exact spread turnover fits
  obtain rfl : answered = [.flag true, .flag true, .flag true, .flag true, .flag true, .nothing,
      .flag true, .flag true, .nothing, .flag true] :=
    Option.some.inj (told.symm.trans (by decide +kernel))
  have expired : engine.counters.expired = 2 := by
    have counted : (reached perform (empty spread) turnover).map (·.counters.expired) = some 2 := by
      decide +kernel
    rw [made] at counted
    exact Option.some.inj counted
  have discarded : (empty spread).discarded turnover = 1 := by decide +kernel
  have created := accounts.created
  rw [discarded, expired] at created
  exact ⟨_, engine, told, made, rfl, rfl, expired, discarded, (Nat.add_left_cancel created).symm,
    accounts.setOps nanosPerSecond⟩

end Engine

end KeyConsole.Storage
