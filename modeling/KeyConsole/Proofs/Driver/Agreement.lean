import KeyConsole.Proofs.Driver.Content
import KeyConsole.Proofs.Driver.Turns
import KeyConsole.Proofs.Session.Paging
import KeyConsole.Proofs.Session.Ranges

/-!
# All views of the keys agree

Which keys the current database holds, and how many, can be asked in many ways, and each is
answered by a mechanism of its own.  At one instant all of them tell the same, and asking
changes nothing that is told later: what a question may drop could not be seen any more.
-/

namespace KeyConsole

open Storage

variable {B : Backend}

/-! ## Questions -/

/-- What a session can be asked about the keys of its current database. -/
inductive Query where
  | size
  /-- Ask for the number of keys by a call. -/
  | countKeys
  | infoText
  | serverInfo
  | currentInfo
  | loadContent (cursor : Nat) (pattern : String) (count : Nat)
  | scan (cursor : Nat) (pattern : String) (count : Nat)
  | keys (first last : Key) (limit : Nat)
  | get (key : Key)
  | ttl (key : Key)

/-- The session after a question, however it is answered. -/
def Query.after (now : Instant) : Query → Session B → Session B
  | size, session => Step.finalState (Session.size now session)
  | countKeys, session =>
    Step.finalState (Session.runCall now "DBKCOUNT" [Text.encode "DBKCOUNT"] session)
  | infoText, session => Step.finalState (Session.infoText now session)
  | serverInfo, session => Step.finalState (Session.serverInfo now session)
  | currentInfo, session => Step.finalState (Session.currentInfo now session)
  | loadContent cursor pattern count, session =>
    Step.finalState (Session.loadContent now cursor pattern count session)
  | scan cursor pattern count, session =>
    Step.finalState (Session.scan now cursor pattern count session)
  | keys first last limit, session =>
    Step.finalState (Session.keys now first last limit session)
  | get key, session => Step.finalState (Session.get now key session)
  | ttl key, session => Step.finalState (Session.ttl now key session)

namespace Builtin

variable {argv : List Bytes} {consumed : Nat} {operation : Operation B}

theorem exists_scan_of_find (found : B.find argv = some (Entry.builtin .scan, consumed))
    (meant : operation ∈ B.callOperation? argv) :
    ∃ cursor pattern count, operation = .scan cursor pattern count := by
  obtain ⟨⟨cursor, options⟩, asked⟩ := Backend.exists_of_find found meant
  exact ⟨_, _, _, (Option.some.inj asked).symm⟩

end Builtin

namespace Session

variable {view : B.View} {sound : B.Handle → Prop} {now : Instant} {sight : Sight}
  {session : Session B} {handle : B.Handle} {all : List Key}

/-! ## What questions leave -/

/-- A session has a sound connection, of which a sight can be seen. -/
def Shows (view : B.View) (sound : B.Handle → Prop) (now : Instant) (sight : Sight)
    (session : Session B) : Prop :=
  ∃ handle, session.handle = some handle ∧ sound handle ∧ view.sight now handle = sight

section

variable (separates : B.Separates view) (tellsKeys : B.TellsKeys view sound)

include tellsKeys

/-- An operation that reads leaves what can be seen, and a sound connection. -/
theorem Shows.after (shows : Shows view sound now sight session) (operation : Operation B)
    (reads : (confinement (view.confinement now)).valid session →
      (confinement (view.confinement now)).same session (operation.after now session)) :
    Shows view sound now sight (operation.after now session) := by
  obtain ⟨handle, connected, isSound, rfl⟩ := shows
  have same := reads ⟨handle, connected, tellsKeys.isPresent handle isSound⟩
  obtain ⟨_, held, isHandle, isAfter, same⟩ := same
  cases connected.symm.trans isHandle
  have upholds : Upholds sound session := by
    intro other isOther
    cases connected.symm.trans isOther
    exact isSound
  have connectedAfter : (operation.after now session).handle = some held := by rw [isAfter]
  have isSoundAfter := upholds_after tellsKeys.opened tellsKeys.kept operation now upholds
  exact ⟨held, connectedAfter, isSoundAfter held connectedAfter,
    Backend.View.sight_of_same same⟩

include separates

theorem Shows.size (shows : Shows view sound now sight session) :
    Shows view sound now sight (Operation.size.after now session) :=
  shows.after tellsKeys .size (reads_onHandle "DBKCOUNT" (separates.count now) session)

theorem Shows.scan (shows : Shows view sound now sight session) (cursor : Nat)
    (pattern : String) (count : Nat) :
    Shows view sound now sight ((Operation.scan cursor pattern count).after now session) :=
  shows.after tellsKeys (.scan cursor pattern count)
    (reads_scan separates now cursor pattern count session)

variable (meansScan : ∀ cursor pattern count, B.Means (scanCall cursor pattern count) .scan)
  (meansCountKeys : B.Means [Text.encode "DBKCOUNT"] .countKeys)

include meansScan in
/-- Loading a page of keys runs a scan, if any, and counts the keys, if it comes to that. -/
theorem Shows.loadContent (shows : Shows view sound now sight session) (cursor : Nat)
    (pattern : String) (count : Nat) :
    Shows view sound now sight
      (Step.finalState (Session.loadContent now cursor pattern count session)) := by
  revert session
  change Step.Keeps (Shows view sound now sight) (Session.loadContent now cursor pattern count)
  refine Step.Keeps.bind (fun session shows => ?_) fun result => ?_
  · rw [finalState_runCall]
    refine Operation.holds_afterAny (fun operation meant session shows => ?_) shows
    have means := meansScan cursor pattern count
    obtain ⟨cursor, pattern, count, rfl⟩ := Builtin.exists_scan_of_find means meant
    exact shows.scan separates tellsKeys cursor pattern count
  · refine (Step.keeps_ofExcept _).bind fun page => ?_
    have counts : Step.Keeps (Shows view sound now sight) (Session.size now) :=
      fun session shows => shows.size separates tellsKeys
    exact counts.bind fun _ => Step.keeps_pure _

end

/-! ## What is told -/

/-- A page of the keys that match a pattern, from a cursor on, and the next cursor. -/
def pageOf (pattern : String) (all : List Key) (cursor count : Nat) : List Key × Nat :=
  let matching := all.filter (Glob.isMatch (Glob.ofText pattern))
  ((matching.drop cursor).take count,
    if cursor + count < matching.length then cursor + count else 0)

theorem snd_pageOf_le (pattern : String) (all : List Key) (cursor count : Nat) :
    (pageOf pattern all cursor count).2 ≤ all.length := by
  have fewer := List.length_filter_le (Glob.isMatch (Glob.ofText pattern)) all
  rw [pageOf]
  split
  · next more => exact Nat.le_trans (Nat.le_of_lt more) fewer
  · exact Nat.zero_le _

/-- Whichever way a session is asked at an instant, it tells of the same keys. -/
structure Agree (now : Instant) (sight : Sight) (all : List Key) (session : Session B) :
    Prop where
  size : Step.answer? (size now session) = some (.ok all.length)
  countKeys : ∀ line, Step.answer? (runCall now line [Text.encode "DBKCOUNT"] session)
    = some (.ok ⟨line, [.integer (Int64.ofNat all.length)]⟩)
  infoText : ∃ info : ServerInfo, Step.answer? (infoText now session) = some (.ok info.toText) ∧
    info.kind = B.kind ∧ info.keys = all.length
  currentInfo : ∃ info, Step.answer? (currentInfo now session) = some (.ok info) ∧
    info.size = all.length
  loadContent : ∀ cursor pattern count, cursor < Text.wordBound → 1 ≤ count →
    count < Text.wordBound → all.length < Text.wordBound →
      Step.answer? (loadContent now cursor pattern count session)
        = some (.ok (.content ((pageOf pattern all cursor count).1.map Item.skeleton)
            (pageOf pattern all cursor count).2 all.length))
  scan : ∀ cursor pattern count, 1 ≤ count →
    Step.answer? (scan now cursor pattern count session)
      = some (.ok (pageOf pattern all cursor count))
  /-- The pages of a scan with a star are together all keys. -/
  scanOn : ∀ count, 1 ≤ count → ∀ limit, pageCount count all ≤ limit → ∃ pages,
    Step.answer? (scanOn (fun _ => now) "*" count limit 0 0 session) = some (.ok pages) ∧
      pages.flatMap Prod.fst = all
  keys : ∀ first last limit, Step.answer? (keys now first last limit session)
    = some (.ok (inRange first last limit all))
  /-- A limit that is not less than the number of keys does not matter. -/
  keys_of_le : ∀ first last limit, all.length ≤ limit →
    Step.answer? (Session.keys now first last limit session)
      = some (.ok (all.filter (Key.isBetween first last)))
  get : ∀ key, Step.answer? (get now key session)
    = some ((sight.slot? key 0).elim (.error (.keyNotFound key.shown)) fun slot =>
        .ok ⟨key, Value.decode slot.value⟩)
  mem_iff_get : ∀ key, key ∈ all ↔
    Step.answer? (Session.get now key session) ≠ some (.error (.keyNotFound key.shown))
  ttl : B.capabilities.ttl = true → ∀ key, Step.answer? (ttl now key session)
    = some (.ok ((sight.slot? key 0).elim (-2) (·.secondsLeft now)))
  mem_iff_ttl : B.capabilities.ttl = true → ∀ key, key ∈ all ↔
    Step.answer? (Session.ttl now key session) ≠ some (.ok (-2))

section

variable (connected : session.handle = some handle) (tells : B.Tells now handle sight all)

include connected tells

theorem exists_size_of_tells :
    ∃ after, size now session = .ok all.length { session with handle := some after } := by
  obtain ⟨after, counted⟩ := tells.count
  exact ⟨after, onHandle_of_ok connected "DBKCOUNT" counted⟩

theorem answer?_countKeys (means : B.Means [Text.encode "DBKCOUNT"] .countKeys) (line : String) :
    Step.answer? (runCall now line [Text.encode "DBKCOUNT"] session)
      = some (.ok ⟨line, [.integer (Int64.ofNat all.length)]⟩) := by
  obtain ⟨after, ran⟩ := exists_size_of_tells connected tells
  rw [runCall_countKeys means, Step.map_of_ok _ ran]
  rfl

theorem scan_eq_pageOf {count : Nat} (positive : 1 ≤ count) (cursor : Nat) (pattern : String) :
    scan now cursor pattern count session = .ok (pageOf pattern all cursor count) session := by
  have scanned : scan now cursor pattern count session
      = .ok (pageOf pattern all cursor count) { session with handle := some handle } :=
    scan_eq_ok positive rfl connected tells.keys cursor
  rwa [← connected] at scanned

theorem answer?_loadContent {cursor count : Nat} {pattern : String}
    (means : B.Means (scanCall cursor pattern count) .scan)
    (cursorFits : cursor < Text.wordBound) (positive : 1 ≤ count)
    (countFits : count < Text.wordBound) (allFit : all.length < Text.wordBound) :
    Step.answer? (loadContent now cursor pattern count session)
      = some (.ok (.content ((pageOf pattern all cursor count).1.map Item.skeleton)
          (pageOf pattern all cursor count).2 all.length)) := by
  obtain ⟨after, ran⟩ := exists_size_of_tells connected tells
  have nextFits := Nat.lt_of_le_of_lt (snd_pageOf_le pattern all cursor count) allFit
  rw [loadContent_of_scan means cursorFits positive countFits nextFits
    (scan_eq_pageOf connected tells positive cursor pattern), Step.map_of_ok _ ran]
  rfl

/-- A star matches every key, so the pages of its scan are together all keys. -/
theorem answer?_scanOn {count limit : Nat} (positive : 1 ≤ count)
    (enough : pageCount count all ≤ limit) :
    ∃ pages, Step.answer? (scanOn (fun _ => now) "*" count limit 0 0 session) = some (.ok pages) ∧
      pages.flatMap Prod.fst = all := by
  have star : Glob.ofText "*" = [.run] := by decide
  have filtered : all.filter (Glob.isMatch (Glob.ofText "*")) = all :=
    List.filter_eq_self.2 fun key _ => by
      rw [star]
      rfl
  obtain ⟨left, isCount⟩ : ∃ left, pageCount count all = left + 1 :=
    Nat.exists_eq_succ_of_ne_zero (by unfold pageCount; omega)
  have asked := @scanOn_from_page B session "*" count all all (fun _ => now) (fun _ => handle)
    positive filtered (fun _ _ => tells.keys) left limit 0 (by omega) (by omega) connected
  rw [Nat.zero_mul] at asked
  refine ⟨_, congrArg Step.answer? asked, ?_⟩
  rw [flatMap_numberedPage, Nat.zero_mul, List.drop_zero]
  rw [Nat.zero_add, ← isCount]
  exact length_le_pageCount_mul positive

theorem answer?_get (key : Key) :
    Step.answer? (get now key session)
      = some ((sight.slot? key 0).elim (.error (.keyNotFound key.shown)) fun slot =>
          .ok ⟨key, Value.decode slot.value⟩) := by
  obtain ⟨after, got⟩ := tells.get key
  cases seen : sight.slot? key 0 with
  | none =>
    rw [seen, Option.map_none] at got
    have missing : get now key session = .error (.refused (.keyNotFound key.shown)) _ :=
      Step.bind_of_ok (onHandle_of_ok connected "GET" got)
    exact congrArg Step.answer? missing
  | some slot =>
    rw [seen, Option.map_some] at got
    exact congrArg Step.answer? (get_of_read connected got)

theorem answer?_ttl (expires : B.capabilities.ttl = true) (key : Key) :
    Step.answer? (ttl now key session)
      = some (.ok ((sight.slot? key 0).elim (-2) (·.secondsLeft now))) := by
  obtain ⟨after, told⟩ := tells.ttl expires key
  rw [ttl, Step.bind_of_ok (requireTtl_of_capable connected expires "TTL"),
    onHandle_of_ok connected "TTL" told]
  rfl

end

/-- No key that is there has as many seconds left as are told of one that is not. -/
theorem secondsLeft_ne (slot : Slot) (now : Instant) : slot.secondsLeft now ≠ -2 := by
  have least : -1 ≤ slot.secondsLeft now := by
    unfold Slot.secondsLeft
    cases slot.deadline with
    | none => exact Int.le_refl _
    | some deadline => exact Int.le_trans (by decide) (Int.natCast_nonneg _)
  omega

/-- A sound connection makes all views of a session agree. -/
theorem agree_of_shows (tellsKeys : B.TellsKeys view sound)
    (meansScan : ∀ cursor pattern count, B.Means (scanCall cursor pattern count) .scan)
    (meansCountKeys : B.Means [Text.encode "DBKCOUNT"] .countKeys) (lists : sight.Lists all)
    (shows : Shows view sound now sight session) : Agree now sight all session := by
  obtain ⟨handle, connected, isSound, rfl⟩ := shows
  obtain ⟨told, tells⟩ := tellsKeys.tells now handle isSound
  obtain rfl : told = all := tells.lists.eq_of_isSome_eq lists fun _ => rfl
  obtain ⟨after, counted⟩ := tells.count
  obtain ⟨info, written, isKind, isKeys⟩ := tells.statsText
  have got := answer?_get connected tells
  have ranged := keys_of_tells connected tells
  constructor
  · obtain ⟨_, ran⟩ := exists_size_of_tells connected tells
    exact congrArg Step.answer? ran
  · exact answer?_countKeys connected tells meansCountKeys
  · have ran : infoText now session = .ok info.toText _ := onHandle_of_unchanged connected written
    exact ⟨info, congrArg Step.answer? ran, isKind, isKeys⟩
  · exact ⟨_, congrArg Step.answer? (currentInfo_of_counted connected counted), rfl⟩
  · intro cursor pattern count cursorFits positive countFits allFit
    exact answer?_loadContent connected tells (meansScan cursor pattern count) cursorFits positive
      countFits allFit
  · intro cursor pattern count positive
    exact congrArg Step.answer? (scan_eq_pageOf connected tells positive cursor pattern)
  · exact fun count positive limit enough => answer?_scanOn connected tells positive enough
  · exact fun first last limit => congrArg Step.answer? (ranged first last limit)
  · intro first last limit enough
    have short := Nat.le_trans (List.length_filter_le (Key.isBetween first last) told) enough
    rw [ranged, inRange, List.take_of_length_le short]
    rfl
  · exact got
  · intro key
    rw [got, lists.mem_iff]
    cases (view.sight now handle).slot? key 0 <;> simp
  · exact answer?_ttl connected tells
  · intro expires key
    rw [answer?_ttl connected tells expires, lists.mem_iff]
    cases (view.sight now handle).slot? key 0 with
    | none => simp
    | some slot => simp [secondsLeft_ne]

end Session

end KeyConsole
