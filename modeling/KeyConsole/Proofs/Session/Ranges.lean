import KeyConsole.Proofs.Databases.Listing

/-!
# Listing the keys of a range

The keys of a range are found by a walk through all keys, unless a backend has a way of its
own.  A backend in memory walks, and one in a file enters its table where the range begins;
they give the same.
-/

namespace KeyConsole.Session

open Storage Backend

variable {B : Backend} {now : Instant} {session : Session B} {handle held : B.Handle}
  {first last : Key} {limit : Nat} {all : List Key}

/-- The first keys of a range among some keys. -/
def inRange (first last : Key) (limit : Nat) (all : List Key) : List Key :=
  (all.filter (Key.isBetween first last)).take limit

theorem inRange_of_lt (reversed : last < first) (limit : Nat) (all : List Key) :
    inRange first last limit all = [] := by
  rw [inRange, Key.filter_isBetween_of_lt reversed, List.take_nil]

/-- A session gives the keys of a range that its backend gives. -/
theorem keys_of_ok (connected : session.handle = some handle)
    (ranged : B.rangeKeys now first last limit handle = .ok (inRange first last limit all) held) :
    ∃ after, keys now first last limit session
        = .ok (inRange first last limit all) { session with handle := some after } ∧
      (after = handle ∨ after = held) := by
  rw [keys, Step.bind_of_ok (requireConnected_of_connected connected)]
  by_cases reversed : last < first
  · have same : { session with handle := some handle } = session := by rw [← connected]
    refine ⟨handle, ?_, .inl rfl⟩
    rw [if_pos reversed, inRange_of_lt reversed, same]
    rfl
  · rw [if_neg reversed]
    exact ⟨held, onHandle_of_ok connected "KEYS" ranged, .inr rfl⟩

/-- A session changes nothing that gives the keys of a range as sound connections tell
them. -/
theorem keys_of_tells {sight : Sight} (connected : session.handle = some handle)
    (tells : B.Tells now handle sight all) (first last : Key) (limit : Nat) :
    keys now first last limit session = .ok (inRange first last limit all) session := by
  obtain ⟨after, ran, same⟩ := keys_of_ok connected (tells.rangeKeys first last limit)
  obtain rfl : after = handle := same.elim id id
  rw [ran, ← connected]

/-- However a sound connection finds the keys of a range, a walk finds the same. -/
theorem rangeKeys_eq_walkRange {sight : Sight} (tells : B.Tells now handle sight all)
    (first last : Key) (limit : Nat) :
    B.rangeKeys now first last limit handle = walkRange (B.keys now) first last limit handle := by
  rw [tells.rangeKeys, walkRange_of_unchanged tells.keys tells.lists.ascending]

/-- The keys of a range are the first ones, up to the limit, of all keys of the current
database from one key to another in ascending order.  A walk finds them on every backend
that lists its keys in this order; both kinds of backends give them and change nothing,
whatever a connected session has been through; and a table, which has a way of its own to
find them, gives what a walk would, and what a database in memory with the same keys does. -/
theorem keys_lists_range :
    (∀ (B : Backend) (now : Instant) (session : Session B) (handle held : B.Handle)
        (all : List Key), session.handle = some handle →
      (∀ first last limit,
        B.rangeKeys now first last limit = walkRange (B.keys now) first last limit) →
      B.keys now handle = .ok all held → all.Pairwise (· < ·) →
        ∀ first last limit, ∃ after, keys now first last limit session
            = .ok (inRange first last limit all) { session with handle := some after } ∧
          (after = handle ∨ after = held)) ∧
    (∀ (kind : BackendKind) (config : Config) (host : kind.backend.Host)
        (session : Session kind.backend) (handle : kind.backend.Handle),
      Reachable config host session → session.handle = some handle → ∀ now, ∃ all,
        (kind.view.sight now handle).Lists all ∧ ∀ first last limit,
          keys now first last limit session = .ok (inRange first last limit all) session) ∧
    (∀ file : TableFile.OpenFile, TableFile.view.IsPresent file → ∀ now first last limit,
      TableFile.backend.rangeKeys now first last limit file
        = walkRange (TableFile.backend.keys now) first last limit file) ∧
    (∀ (store : Memory.Store) (file : TableFile.OpenFile), Memory.Sound store →
      TableFile.view.IsPresent file → ∀ now,
        (∀ key, ((Memory.view.sight now store).slot? key 0).isSome
          = ((TableFile.view.sight now file).slot? key 0).isSome) →
        ∀ first last limit,
          Step.answer? (Memory.backend.rangeKeys now first last limit store)
            = Step.answer? (TableFile.backend.rangeKeys now first last limit file)) ∧
    ∀ first last limit all, last < first ∨ limit = 0 → inRange first last limit all = [] := by
  refine ⟨?_, ?_, ?_, ?_, ?_⟩
  · intro B now session handle held all connected walks listed ascending first last limit
    obtain ⟨_, walked, rfl | rfl⟩ := walkRange_eq_ok listed ascending first last limit
    · obtain ⟨after, ran, same⟩ := keys_of_ok connected
        ((congrFun (walks first last limit) _).trans walked)
      exact ⟨after, ran, .inl (same.elim id id)⟩
    · exact keys_of_ok connected ((congrFun (walks first last limit) _).trans walked)
  · intro kind config host session handle reachable connected now
    obtain ⟨all, tells⟩ := kind.tellsKeys.tells now handle (reachable.sound connected)
    exact ⟨all, tells.lists, keys_of_tells connected tells⟩
  · intro file present now
    obtain ⟨all, tells⟩ := TableFile.tellsKeys.tells now file present
    exact rangeKeys_eq_walkRange tells
  · intro store file sound present now same first last limit
    obtain ⟨all, tells⟩ := Memory.tellsKeys.tells now store sound
    obtain ⟨others, tellsToo⟩ := TableFile.tellsKeys.tells now file present
    have equal : all = others := tells.lists.eq_of_isSome_eq tellsToo.lists same
    have ran := tells.rangeKeys first last limit
    have ranToo := tellsToo.rangeKeys first last limit
    rw [← equal] at ranToo
    exact (congrArg Step.answer? ran).trans (congrArg Step.answer? ranToo).symm
  · rintro first last limit all (reversed | rfl)
    · exact inRange_of_lt reversed limit all
    · exact List.take_zero

/-- A key that another one begins with comes first, and a table stops in front of a key that
only begins with the last one. -/
theorem keys_lists_range_of_beginnings :
    let entries : OrderedMap Bytes Bytes :=
      ((OrderedMap.singleton [0x61] []).insert [0x61, 0x62] []).insert [0x62, 0x00] []
    let session : Session (Guarded.backend ⟨true, false⟩) :=
      ⟨Config.forDatabase "main", (), some entries, false⟩
    let file : TableFile.OpenFile :=
      ⟨"/items", ["items"], OrderedMap.singleton "default" entries, "default", fun _ => none⟩
    keys 0 [0x61] [0x62] 5 session = .ok [[0x61], [0x61, 0x62]] session ∧
      keys 0 [0x61] [0x62, 0x00] 1 session = .ok [[0x61]] session ∧
      TableFile.backend.rangeKeys 0 [0x61] [0x62] 5 file
        = walkRange (TableFile.backend.keys 0) [0x61] [0x62] 5 file := by
  intro entries session file
  obtain ⟨walks, -, ranges, -⟩ := keys_lists_range
  have given := walks (Guarded.backend ⟨true, false⟩) 0 session entries entries
    [[0x61], [0x61, 0x62], [0x62, 0x00]] rfl (fun _ _ _ => rfl) (by rfl) (by decide)
  refine ⟨?_, ?_, ranges file (by rfl) 0 [0x61] [0x62] 5⟩
  · obtain ⟨_, ran, rfl | rfl⟩ := given [0x61] [0x62] 5 <;> exact ran
  · obtain ⟨_, ran, rfl | rfl⟩ := given [0x61] [0x62, 0x00] 1 <;> exact ran

end KeyConsole.Session
