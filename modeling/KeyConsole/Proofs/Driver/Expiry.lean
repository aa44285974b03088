import KeyConsole.Proofs.Driver.Agreement
import KeyConsole.Proofs.Durability.Survival
import KeyConsole.Proofs.Step.Breakdown

/-!
# Keys that expire

A live key in memory can be let expire after any number of seconds as long as the clock can
show the deadline, and there is no other way for this to break down.  With no seconds left
the key is absent from then on until it is stored again.  Otherwise the whole seconds that
are left are told until the deadline, whatever has been done meanwhile that does not touch
the key, and as a number of 64 bits they are the same.
-/

namespace KeyConsole

open Storage

/-! ## In a store -/

namespace Memory

variable {now first later : Instant} {database : String} {key : Key} {store : Store} {slot : Slot}
  {seconds : Nat}

/-- What is seen in the current database is what can be seen of the connection. -/
theorem seen?_current (present : view.IsPresent store) (now : Instant) (key : Key) :
    store.seen? now store.current key = (view.sight now store).slot? key 0 := by
  rcases isPresent_iff.1 present with ⟨engine, here⟩
  rw [Store.seen?_of_get? here, slot?_sight here, Nat.add_zero]

/-- Nothing is seen in a new store. -/
theorem seen?_of_acquire {config : Config} {host after : backend.Host} {store : backend.Handle}
    (acquired : backend.acquire config host = .ok store after) (now : Instant)
    (database : String) (key : Key) : Store.seen? now database key store = none := by
  obtain ⟨only, rfl⟩ := exists_eq_of_acquire acquired
  unfold Store.seen? Store.slot?
  rw [OrderedMap.get?_singleton]
  split
  · rw [Option.bind_some, Engine.slot?_empty, Option.filter_none]
  · rfl

theorem exists_engine_of_seen (seen : store.seen? now database key = some slot) :
    ∃ engine, store.databases.get? database = some engine ∧ engine.seen? now key = some slot := by
  cases here : store.databases.get? database with
  | none =>
    rw [Store.seen?, Store.slot?, here, Option.bind_none, Option.filter_none] at seen
    cases seen
  | some engine =>
    rw [Store.seen?_of_get? here] at seen
    exact ⟨engine, rfl, seen⟩

/-- A live key is given a deadline if the clock can show it. -/
theorem expire_of_shown (seen : store.seen? now store.current key = some slot)
    (shown : now + seconds * nanosPerSecond < clockEnd) :
    ∃ after, expire now key seconds store = .ok true after ∧ after.current = store.current ∧
      after.slot? store.current key
        = some { slot with deadline := some (now + seconds * nanosPerSecond) } := by
  rcases exists_engine_of_seen seen with ⟨engine, here, seen⟩
  let limited : Slot := { slot with deadline := some (now + seconds * nanosPerSecond) }
  let after : Engine := engine.updateShard key (·.insert key limited)
  have expired : engine.expire now key seconds = some (true, after) := by
    rw [Engine.expire, Engine.expireAfter_eq, seen]
    exact if_pos shown
  have ran : expire now key seconds store
      = .ok true { store with databases := store.databases.insert store.current after } := by
    simp only [expire, here, expired]
  refine ⟨_, ran, rfl, ?_⟩
  rw [Store.slot?_replace, if_pos rfl, Engine.slot?_expireAfter_self _ _ _ expired, seen]
  rfl

/-- Otherwise letting it expire breaks down. -/
theorem expire_of_not_shown (seen : store.seen? now store.current key = some slot)
    (beyond : clockEnd ≤ now + seconds * nanosPerSecond) :
    expire now key seconds store = .error .broken store := by
  rcases exists_engine_of_seen seen with ⟨engine, here, seen⟩
  have expired : engine.expire now key seconds = none := by
    rw [Engine.expire, Engine.expireAfter_eq, seen]
    exact if_neg (Nat.not_lt.2 beyond)
  simp only [expire, here, expired]

/-! ## While a session goes on -/

/-- The current database of a session in memory is the one of its store. -/
theorem database?_eq_some_iff {session : Session backend} :
    session.database? = some database ↔
      ∃ store : Store, session.handle = some store ∧ store.current = database :=
  Session.database?_eq_some_iff

/-- An operation does not store anything under a key in a database. -/
def StoresNot (database : String) (key : Key) (operation : Operation backend)
    (session : Session backend) : Prop :=
  ∀ raw, operation.MayRun (.put key raw) → session.database? ≠ some database

variable {session last : Session backend}

/-- A slot that is seen at an instant is seen then behind a run before that spares it. -/
theorem exists_seen_of_run {slot : Slot}
    (run : Session.RunsDuring (· ≤ later) (Operation.Unrelated .memory database key) session last)
    (seen : ∃ store : Store, session.handle = some store ∧
      store.seen? later database key = some slot) :
    ∃ store : Store, last.handle = some store ∧ store.seen? later database key = some slot := by
  apply run.induction _ seen
  rintro operation now middle before unrelated ⟨store, connected, seen⟩
  exact exists_handle_after (custodyAt_seen before) connected unrelated seen

/-- What is not seen from an instant on is not seen behind a run that does not store it, be the
connection closed or opened anew. -/
theorem unseen_of_run
    (run : Session.RunsDuring (first ≤ ·) (StoresNot database key) session last)
    (unseen : session.Upholds fun store : Store => store.seen? first database key = none) :
    last.Upholds fun store : Store => store.seen? first database key = none := by
  apply run.induction _ unseen
  intro operation now middle since storesNot unseen
  apply Session.upholds_after_of_inside _ unseen
  · intro inside store connected
    apply Session.upholds_of_exists
    have allows (primitive : Primitive backend) (mayRun : operation.MayRun primitive) (raw : Bytes)
        (puts : primitive = .put key raw) : store.current ≠ database := by
      subst puts
      intro here
      exact storesNot raw mayRun (database?_eq_some_iff.2 ⟨store, connected, here⟩)
    exact ((custodyAt_unseen since).after inside connected allows (unseen store connected)).handle
  · intro config host store after acquired
    exact seen?_of_acquire acquired first database key

end Memory

/-! ## Asking a session -/

namespace Session

variable {now later : Instant} {database : String} {key : Key} {slot : Slot} {seconds : Nat}

/-- The call that asks for the time to live of a key. -/
def ttlCall (key : Key) : List Bytes :=
  [Text.encode "TTL", key]

/-- It replies the seconds that are left as a number of 64 bits. -/
theorem runCall_ttl {B : Backend} {key : Key} (means : B.Means (ttlCall key) .ttl) (line : String) :
    runCall now line (ttlCall key)
      = (fun left => CommandResult.mk line [.integer (Int64.ofInt left)])
          <$> ttl (B := B) now key :=
  runCall_of_builtin means rfl rfl rfl line

/-- The time to live of a key is told in whole seconds, by the session and by a call, and a
number of 64 bits holds it. -/
structure TellsTtl (now : Instant) (key : Key) (left : Nat) (session : Session Memory.backend) :
    Prop where
  told : ∃ after, ttl now key session = .ok (left : Int) after ∧ ∀ line,
    runCall now line (ttlCall key) session = .ok ⟨line, [.integer (Int64.ofInt left)]⟩ after
  fits : (Int64.ofInt left).toInt = left

/-- A key of the current database has been let expire after some seconds. -/
structure LetExpire (now : Instant) (database : String) (key : Key) (seconds : Nat)
    (session after : Session Memory.backend) : Prop where
  operation : expire now key seconds session = .ok true after
  current : after.database? = some database
  call : ∀ line, runCall now line (KeyRequest.changeTtl key seconds).argv session
    = .ok ⟨line, [.integer 1]⟩ after
  /-- With no seconds left no view of the database has the key until it is stored again. -/
  gone : seconds = 0 → ∀ later last, now ≤ later →
    RunsDuring (now ≤ ·) (Memory.StoresNot database key) after last →
      last.database? = some database → ∃ sight all, Agree later sight all last ∧ key ∉ all
  /-- Until the deadline the whole seconds to it are told if the key is not touched. -/
  left : ∀ later last, now ≤ later → later < now + seconds * nanosPerSecond →
    RunsDuring (· ≤ later) (Operation.Unrelated .memory database key) after last →
      last.database? = some database →
        let left := (now + seconds * nanosPerSecond - later) / nanosPerSecond
        left ≤ seconds ∧ TellsTtl later key left last

section

variable {config : Config} {session last : Session Memory.backend}

theorem Reachable.soundInMemory {store : Memory.Store} (reachable : Reachable config () session)
    (connected : session.handle = some store) : Memory.Sound store :=
  @Reachable.sound .memory config () session store reachable connected

/-- All views of a session in memory agree on the keys that are seen in its store. -/
theorem exists_agree {store : Memory.Store} (reachable : Reachable config () session)
    (connected : session.handle = some store) (now : Instant) :
    ∃ all, Agree now (Memory.view.sight now store) all session ∧
      ∀ key, key ∈ all ↔ (store.seen? now store.current key).isSome = true := by
  have isSound := reachable.soundInMemory connected
  rcases Memory.tellsKeys.tells now store isSound with ⟨all, tells⟩
  have meansScan := means_scanCall .memory
  have meansCountKeys := means_countKeys .memory
  refine ⟨all, ?_, fun key => ?_⟩
  · exact agree_of_shows Memory.tellsKeys meansScan meansCountKeys tells.lists
      ⟨store, connected, isSound, rfl⟩
  · rw [tells.lists.mem_iff, Memory.seen?_current isSound.isPresent]

/-- A slot with a deadline that is seen tells the seconds to it. -/
theorem tellsTtl_of_seen {store : Memory.Store} {raw : Bytes} {deadline : Instant}
    (reachable : Reachable config () session) (connected : session.handle = some store)
    (shown : deadline < clockEnd)
    (seen : store.seen? now store.current key = some ⟨raw, some deadline⟩) :
    TellsTtl now key ((deadline - now) / nanosPerSecond) session := by
  have isSound := reachable.soundInMemory connected
  rcases Memory.tellsKeys.tells now store isSound with ⟨all, tells⟩
  rcases tells.ttl rfl key with ⟨held, read⟩
  rw [← Memory.seen?_current isSound.isPresent, seen] at read
  have told := ttl_of_read rfl connected read
  have means : Memory.backend.Means (ttlCall key) .ttl :=
    BackendKind.means_backend .memory (by decide) (by decide) (by rfl)
  constructor
  · refine ⟨_, told, fun line => ?_⟩
    rw [runCall_ttl means, Step.map_of_ok _ told]
    rfl
  · have few : (deadline - now) / nanosPerSecond < 2 ^ 63 := by
      apply Nat.div_lt_of_lt_mul
      rw [Nat.mul_comm]
      exact Nat.lt_of_le_of_lt (Nat.sub_le deadline now) shown
    apply Int64.toInt_ofInt_of_le
    · exact Int.le_trans (by decide) (Int.natCast_nonneg _)
    · exact_mod_cast few

/-! ## Later instants -/

/-- A key that is not seen from an instant on is in no view of its database behind a run that
does not store it. -/
theorem exists_agree_of_unseen (reachable : Reachable config () session)
    (unseen : session.Upholds fun store : Memory.Store => store.seen? now database key = none)
    (since : now ≤ later)
    (run : RunsDuring (now ≤ ·) (Memory.StoresNot database key) session last)
    (selected : last.database? = some database) :
    ∃ sight all, Agree later sight all last ∧ key ∉ all := by
  rcases Memory.database?_eq_some_iff.1 selected with ⟨store, connected, isDatabase⟩
  rcases exists_agree (reachable.runsDuring run) connected later with ⟨all, agree, mem⟩
  refine ⟨_, all, agree, fun isThere => ?_⟩
  have seen := (mem key).1 isThere
  have unseenLast := Memory.unseen_of_run run unseen store connected
  rw [isDatabase, Memory.Store.seen?_of_le since, unseenLast] at seen
  cases seen

/-- A slot with a deadline that will be seen at an instant tells the seconds to its deadline then,
behind a run that does not touch it. -/
theorem tellsTtl_of_run {raw : Bytes} {deadline : Instant} (reachable : Reachable config () session)
    (shown : deadline < clockEnd)
    (seen : ∃ store : Memory.Store, session.handle = some store ∧
      store.seen? later database key = some ⟨raw, some deadline⟩)
    (run : RunsDuring (· ≤ later) (Operation.Unrelated .memory database key) session last)
    (selected : last.database? = some database) :
    TellsTtl later key ((deadline - later) / nanosPerSecond) last := by
  rcases Memory.exists_seen_of_run run seen with ⟨store, connected, seen⟩
  rcases Memory.database?_eq_some_iff.1 selected with ⟨other, isOther, isDatabase⟩
  cases connected.symm.trans isOther
  rw [← isDatabase] at seen
  exact tellsTtl_of_seen (reachable.runsDuring run) connected shown seen

/-! ## Letting a key expire -/

/-- A key that is found is seen in the store of a connected session. -/
theorem exists_seen_of_get {item : Item} (reachable : Reachable config () session)
    (live : Step.answer? (get now key session) = some (.ok item)) :
    ∃ (store : Memory.Store) (slot : Slot), session.handle = some store ∧
      store.seen? now store.current key = some slot := by
  cases connected : session.handle with
  | none =>
    have refused : get now key session = .error (.refused .notConnected) session :=
      Step.bind_of_error (onHandle_of_disconnected "GET" _ connected)
    rw [refused] at live
    cases live
  | some store =>
    have isSound := reachable.soundInMemory connected
    rcases Memory.tellsKeys.tells now store isSound with ⟨all, tells⟩
    rw [answer?_get connected tells, ← Memory.seen?_current isSound.isPresent] at live
    cases seen : store.seen? now store.current key with
    | none =>
      rw [seen] at live
      cases live
    | some slot => exact ⟨store, slot, rfl, seen⟩

/-- Letting a key expire in memory is up to the store of the session. -/
theorem expire_eq {store : Memory.Store} (connected : session.handle = some store) (now : Instant)
    (key : Key) (seconds : Nat) :
    expire now key seconds session
      = onHandle (B := Memory.backend) "EXPIRE" (Memory.expire now key seconds) session := by
  rw [expire, Step.bind_of_ok (requireTtl_of_capable connected rfl "EXPIRE")]
  rfl

variable {store : Memory.Store}

theorem letExpire_of_shown (reachable : Reachable config () session)
    (connected : session.handle = some store)
    (seen : store.seen? now store.current key = some slot) (fits : seconds < Text.wordBound)
    (shown : now + seconds * nanosPerSecond < clockEnd) :
    ∃ after, LetExpire now store.current key seconds session after := by
  rcases Memory.expire_of_shown seen shown with ⟨held, ran, isCurrent, limited⟩
  have expired : expire now key seconds session
      = .ok true { session with handle := some held } := by
    rw [expire_eq connected]
    exact onHandle_of_ok connected "EXPIRE" ran
  have reachableAfter : Reachable config () { session with handle := some held } :=
    reachable.tail ⟨now, .operation (.expire key seconds), fun _ _ => trivial,
      (congrArg Step.finalState expired).symm⟩
  have means : Memory.backend.Means (KeyRequest.changeTtl key seconds).argv .expire :=
    KeyRequest.means_argv .memory _
  have currentAfter : database? { session with handle := some held } = some store.current :=
    Memory.database?_eq_some_iff.2 ⟨held, rfl, isCurrent⟩
  refine ⟨_, expired, currentAfter, fun line => ?_, ?_, ?_⟩
  · rw [runCall_expire means fits line, Step.map_of_ok _ expired]
    rfl
  · rintro rfl later last since run selected
    have unseen : held.seen? now store.current key = none := by
      rw [Memory.Store.seen?, limited, Nat.zero_mul, Nat.add_zero]
      exact Option.filter_some_neg (by simp [Slot.isLive, Slot.isExpired])
    exact exists_agree_of_unseen reachableAfter (upholds_of_exists ⟨held, rfl, unseen⟩) since run
      selected
  · intro later last since early run selected left
    have seenAfter : held.seen? later store.current key
        = some ⟨slot.value, some (now + seconds * nanosPerSecond)⟩ := by
      rw [Memory.Store.seen?, limited]
      exact Option.filter_some_pos (by simpa [Slot.isLive, Slot.isExpired] using early)
    constructor
    · apply Nat.div_le_of_le_mul
      rw [Nat.mul_comm, Nat.sub_le_iff_le_add, Nat.add_comm]
      exact Nat.add_le_add_left since _
    · exact tellsTtl_of_run reachableAfter shown ⟨held, rfl, seenAfter⟩ run selected

theorem expire_of_not_shown (connected : session.handle = some store)
    (seen : store.seen? now store.current key = some slot)
    (beyond : clockEnd ≤ now + seconds * nanosPerSecond) :
    ∃ after, expire now key seconds session = .error .broken after := by
  rw [expire_eq connected]
  simp only [onHandle, connected, Memory.expire_of_not_shown seen beyond]
  exact ⟨_, rfl⟩

/-- A live key of a session in memory can be let expire after any number of seconds whose
deadline the clock can show, by an operation and by a call; only beyond that both break down. -/
theorem expire_of_live {item : Item} (reachable : Reachable config () session)
    (selected : session.database? = some database)
    (live : Step.answer? (get now key session) = some (.ok item))
    (fits : seconds < Text.wordBound) :
    (Step.BreaksDown (expire now key seconds session) ↔
        clockEnd ≤ now + seconds * nanosPerSecond) ∧
      (∀ line, Step.BreaksDown
          (runCall now line (KeyRequest.changeTtl key seconds).argv session) ↔
        clockEnd ≤ now + seconds * nanosPerSecond) ∧
      (now + seconds * nanosPerSecond < clockEnd →
        ∃ after, LetExpire now database key seconds session after) := by
  rcases exists_seen_of_get reachable live with ⟨store, slot, connected, seen⟩
  rcases Memory.database?_eq_some_iff.1 selected with ⟨other, isOther, rfl⟩
  cases connected.symm.trans isOther
  have means : Memory.backend.Means (KeyRequest.changeTtl key seconds).argv .expire :=
    KeyRequest.means_argv .memory _
  by_cases shown : now + seconds * nanosPerSecond < clockEnd
  · rcases letExpire_of_shown reachable connected seen fits shown with ⟨after, letExpire⟩
    have within : ¬clockEnd ≤ now + seconds * nanosPerSecond := Nat.not_le.2 shown
    refine ⟨iff_of_false ?_ within, fun line => iff_of_false ?_ within, fun _ => ⟨after, letExpire⟩⟩
    · rw [letExpire.operation]
      exact Step.not_breaksDown_ok
    · rw [letExpire.call line]
      exact Step.not_breaksDown_ok
  · have beyond := Nat.not_lt.1 shown
    rcases expire_of_not_shown connected seen beyond with ⟨after, broken⟩
    refine ⟨iff_of_true ?_ beyond, fun line => iff_of_true ?_ beyond, fun early => absurd early shown⟩
    · rw [broken]
      exact Step.breaksDown_broken
    · rw [runCall_expire means fits line, Step.map_of_error _ broken]
      exact Step.breaksDown_broken

end

theorem get_expiring :
    Step.answer? (get 0 [0x6B] expiring) = some (.ok ⟨[0x6B], .string "v"⟩) := by
  rfl

/-- A key is let expire at once, and it is let expire after five seconds, one and a half of which
have gone by, but not after the largest number of seconds that a call can name. -/
theorem expire_of_live_expiring :
    (∃ after, LetExpire 0 "default" [0x6B] 0 expiring after ∧
      ∃ sight all, Agree 7 sight all after ∧ [0x6B] ∉ all) ∧
    (∃ after, LetExpire 0 "default" [0x6B] 5 expiring after ∧ TellsTtl 1500000000 [0x6B] 3 after) ∧
      Step.BreaksDown (expire 0 [0x6B] (Text.wordBound - 1) expiring) := by
  have selected : expiring.database? = some "default" := by rfl
  have live := get_expiring
  rcases (expire_of_live reachable_expiring selected live (by decide : 0 < Text.wordBound)).2.2
    (by decide) with ⟨now, atOnce⟩
  rcases (expire_of_live reachable_expiring selected live (by decide : 5 < Text.wordBound)).2.2
    (by decide) with ⟨after, soon⟩
  have largest := (expire_of_live reachable_expiring selected live
    (by decide : Text.wordBound - 1 < Text.wordBound)).1
  constructor
  · exact ⟨now, atOnce, atOnce.gone rfl 7 now (by decide) .refl atOnce.current⟩
  constructor
  · exact ⟨after, soon, (soon.left _ after (by decide) (by decide) .refl soon.current).2⟩
  · exact largest.2 (by decide)

/-- Not every number of seconds that a call can name is one after which a live key can be let
expire. -/
theorem not_expires_largest :
    ¬(∀ config (session : Session Memory.backend), Reachable config () session →
      ∀ now key item seconds line, Step.answer? (get now key session) = some (.ok item) →
        seconds < Text.wordBound → ∃ after,
          runCall now line (KeyRequest.changeTtl key seconds).argv session
            = .ok ⟨line, [.integer 1]⟩ after) := by
  intro replies
  rcases replies _ expiring reachable_expiring 0 [0x6B] _ (Text.wordBound - 1) "" get_expiring
    (by decide) with ⟨after, replied⟩
  have broken : Step.answer? (runCall 0 "" (KeyRequest.changeTtl [0x6B] (Text.wordBound - 1)).argv
      expiring) = none := by
    decide +kernel
  rw [replied] at broken
  cases broken

end Session

end KeyConsole
