import KeyConsole.Proofs.Databases.Listing
import KeyConsole.Proofs.Driver.KeyLines

/-!
# Deleting keys

A deletion removes its keys one by one and stops at the first removal that is refused.  A
key is reported if it can be seen when its turn comes; so a key that is listed twice is
reported once, and one whose slot has expired is removed but not reported.
-/

namespace KeyConsole

open Storage

/-! ## Without some keys -/

namespace Sight

/-- The same, but from now on nothing is under some keys of the current database. -/
def without (sight : Sight) (keys : List Key) : Sight :=
  keys.foldl (fun sight key => sight.replace key none) sight

/-- Those of some keys that can be seen at once, each where it comes first. -/
def present (sight : Sight) (keys : List Key) : List Key :=
  (keys.filter fun key => (sight.slot? key 0).isSome).eraseDups

variable {sight : Sight} {key other : Key} {keys all : List Key}

theorem without_cons (sight : Sight) (key : Key) (keys : List Key) :
    sight.without (key :: keys) = (sight.replace key none).without keys :=
  rfl

theorem slot?_without (isPresent : sight.IsPresent) (keys : List Key) (other : Key)
    (later : Instant) :
    (sight.without keys).slot? other later
      = if other ∈ keys then none else sight.slot? other later := by
  induction keys generalizing sight with
  | nil => rfl
  | cons key keys ih =>
    rw [without_cons, ih (isPresent.replace key none), slot?_replace isPresent]
    by_cases listed : other ∈ keys
    · rw [if_pos listed, if_pos (List.mem_cons_of_mem key listed)]
    · rw [if_neg listed]
      exact if_congr (by simp [listed]) rfl rfl

/-- What was under some keys of the current database is gone, and nothing else. -/
structure Loses (keys : List Key) (before after : Sight) : Prop where
  gone : ∀ key ∈ keys, ∀ later, after.slot? key later = none
  elsewhere : SameBut keys before after

theorem current_without (sight : Sight) (keys : List Key) :
    (sight.without keys).current = sight.current := by
  induction keys generalizing sight with
  | nil => rfl
  | cons key keys ih => rw [without_cons, ih, current_replace]

theorem databases_without_of_ne {name : String} (different : name ≠ sight.current)
    (keys : List Key) : (sight.without keys).databases name = sight.databases name := by
  induction keys generalizing sight with
  | nil => rfl
  | cons key keys ih =>
    have inRest := @ih (sight.replace key none) different
    rw [without_cons, inRest, databases_replace_of_ne different]

theorem loses_without (isPresent : sight.IsPresent) (keys : List Key) :
    Loses keys sight (sight.without keys) where
  gone key mem later := by rw [slot?_without isPresent, if_pos mem]
  elsewhere :=
    { current := current_without sight keys
      others := fun name different => databases_without_of_ne different keys
      items := fun key notMem later => by rw [slot?_without isPresent, if_neg notMem] }

/-- A key that can be seen is the first of those present, and does not come again. -/
theorem present_cons (isPresent : sight.IsPresent) (key : Key) (keys : List Key) :
    sight.present (key :: keys)
      = if (sight.slot? key 0).isSome then key :: (sight.replace key none).present keys
        else (sight.replace key none).present keys := by
  have left : keys.filter (fun other => ((sight.replace key none).slot? other 0).isSome)
      = (keys.filter fun other => (sight.slot? other 0).isSome).filter fun other =>
          !other == key := by
    rw [List.filter_filter]
    apply List.filter_congr
    intro other _
    rw [slot?_replace isPresent]
    by_cases same : other = key <;> simp [same]
  have first : (sight.present (key :: keys))
      = ((if (sight.slot? key 0).isSome then [key] else [])
          ++ keys.filter fun other => (sight.slot? other 0).isSome).eraseDups := by
    rw [present, List.filter_cons]
    split <;> rfl
  rw [first, present, left]
  by_cases seen : (sight.slot? key 0).isSome = true
  · rw [if_pos seen, if_pos seen, List.singleton_append, List.eraseDups_cons]
  · -- the key is none of those that can be seen
    have others : ∀ other ∈ keys.filter fun other => (sight.slot? other 0).isSome,
        (!other == key) = true := by
      rintro other mem
      have otherSeen := (List.mem_filter.1 mem).2
      simp only [Bool.not_eq_true', beq_eq_false_iff_ne]
      rintro rfl
      exact seen otherSeen
    rw [if_neg seen, if_neg seen, List.nil_append, List.filter_eq_self.2 others]

theorem mem_present_iff : key ∈ sight.present keys ↔ key ∈ keys ∧ (sight.slot? key 0).isSome := by
  rw [present, List.mem_eraseDups, List.mem_filter]

theorem nodup_present (isPresent : sight.IsPresent) (keys : List Key) :
    (sight.present keys).Nodup := by
  induction keys generalizing sight with
  | nil => exact List.nodup_nil
  | cons key keys ih =>
    have rest := ih (isPresent.replace key none)
    rw [present_cons isPresent]
    split
    · refine List.nodup_cons.2 ⟨fun again => ?_, rest⟩
      have seen := (mem_present_iff.1 again).2
      rw [slot?_replace isPresent, if_pos rfl] at seen
      cases seen
    · exact rest

theorem Lists.without (lists : sight.Lists all) (isPresent : sight.IsPresent)
    (keys : List Key) : (sight.without keys).Lists (all.filter (· ∉ keys)) where
  ascending := lists.ascending.filter _
  mem_iff key := by
    rw [List.mem_filter, lists.mem_iff, slot?_without isPresent]
    by_cases listed : key ∈ keys <;> simp [listed]

/-- As many keys are missing afterwards as were present. -/
theorem Lists.length_eq (lists : sight.Lists all) (isPresent : sight.IsPresent)
    (keys : List Key) :
    all.length = (all.filter (· ∉ keys)).length + (sight.present keys).length := by
  have perm : (all.filter (· ∈ keys)).Perm (sight.present keys) := by
    refine (List.perm_ext_iff_of_nodup (lists.nodup.filter _) (nodup_present isPresent keys)).2 ?_
    intro key
    rw [List.mem_filter, lists.mem_iff, decide_eq_true_eq, mem_present_iff]
    exact And.comm
  have split := all.length_eq_length_filter_add (· ∈ keys)
  rw [perm.length_eq] at split
  rw [split, Nat.add_comm]
  simp

end Sight

/-- Sound connections count the keys that can be seen, and no removal ends that. -/
structure Backend.CountsKeys (B : Backend) (view : B.View) (sound : B.Handle → Prop)
    (now : Instant) : Prop where
  remove : ∀ key, Step.Keeps sound (B.remove now key)
  count : ∀ handle, sound handle → ∃ all after, (view.sight now handle).Lists all ∧
    B.count now handle = .ok all.length after

theorem Backend.TellsKeys.countsKeys {B : Backend} {view : B.View} {sound : B.Handle → Prop}
    (tellsKeys : B.TellsKeys view sound) (now : Instant) : B.CountsKeys view sound now where
  remove key := tellsKeys.kept (.remove key) now
  count handle isSound := by
    obtain ⟨all, tells⟩ := tellsKeys.tells now handle isSound
    obtain ⟨after, counted⟩ := tells.count
    exact ⟨all, after, tells.lists, counted⟩

namespace Session

variable {B : Backend} {view : B.View} {now : Instant} {handle held after : B.Handle}
  {session : Session B} {key : Key} {keys found : List Key}

/-! ## Removing keys in turn -/

/-- Removing keys in turn finds some of them, and none is refused. -/
inductive Removes (now : Instant) : B.Handle → List Key → List Key → B.Handle → Prop
  | nil {handle : B.Handle} : Removes now handle [] [] handle
  | cons {handle held after : B.Handle} {key : Key} {keys found : List Key} {isFound : Bool}
    (removed : B.remove now key handle = .ok isFound held)
    (rest : Removes now held keys found after) :
    Removes now handle (key :: keys) (if isFound then key :: found else found) after

/-- Removing keys in turn goes well in front of one, whose removal is refused. -/
def RefusedAt (now : Instant) (handle : B.Handle) (earlier : List Key) (key : Key)
    (cause : Refusal) (after : B.Handle) : Prop :=
  ∃ found held, Removes now handle earlier found held ∧
    B.remove now key held = .error (.refused cause) after

/-- A deletion goes on behind the keys that have been removed. -/
theorem Removes.deleteFrom_append (removes : Removes now handle keys found after)
    (connected : session.handle = some handle) (reported rest : List Key) :
    deleteFrom now reported (keys ++ rest) session
      = deleteFrom now (reported ++ found) rest { session with handle := some after } := by
  induction removes generalizing session reported with
  | nil => rw [List.nil_append, List.append_nil, ← connected]
  | @cons handle held after key keys found isFound removed _ ih =>
    have reports : (if isFound then reported ++ [key] else reported) ++ found
        = reported ++ if isFound then key :: found else found := by
      cases isFound with
      | true => exact List.append_assoc reported [key] found
      | false => rfl
    rw [List.cons_append, deleteFrom,
      Step.bind_of_ok (onHandle_of_ok connected "DEL" removed), ih rfl, reports]

theorem Removes.delete_eq (removes : Removes now handle keys found after)
    (connected : session.handle = some handle) :
    delete now keys session = .ok found { session with handle := some after } := by
  have ran := removes.deleteFrom_append connected [] []
  rw [List.append_nil, List.nil_append] at ran
  rw [delete, Step.bind_of_ok (requireConnected_of_connected connected), ran]
  rfl

theorem RefusedAt.delete_eq {earlier later : List Key} {cause : Refusal}
    (refusedAt : RefusedAt now handle earlier key cause after)
    (connected : session.handle = some handle) :
    delete now (earlier ++ key :: later) session
      = .error (.refused (cause.error "DEL")) { session with handle := some after } := by
  obtain ⟨found, held, removes, refused⟩ := refusedAt
  rw [delete, Step.bind_of_ok (requireConnected_of_connected connected),
    removes.deleteFrom_append connected, deleteFrom]
  exact Step.bind_of_error (onHandle_of_error rfl "DEL" refused)

section

variable (acts : B.TellsRemoved view now) (isPresent : view.IsPresent handle)

include acts isPresent

/-- Removing a key of the current database leaves the database there. -/
theorem isPresent_of_removed {isFound : Bool} (removed : B.remove now key handle = .ok isFound held) :
    view.IsPresent held := by
  have seen := ((acts key).of_ok isPresent removed).2
  exact Backend.View.isPresent_of_sight_eq seen
    ((Backend.View.isPresent_sight.2 isPresent).replace key none)

/-- Exactly the keys that can be seen are found, and what remains is without any of the
keys. -/
theorem Removes.sight_eq (removes : Removes now handle keys found after) :
    found = (view.sight now handle).present keys ∧
      view.sight now after = (view.sight now handle).without keys := by
  induction removes with
  | nil => exact ⟨rfl, rfl⟩
  | @cons handle held after key keys found isFound removed _ ih =>
    have told : isFound = ((view.sight now handle).slot? key 0).isSome ∧
        view.sight now held = (view.sight now handle).replace key none :=
      (acts key).of_ok isPresent removed
    obtain ⟨foundEq, seen⟩ := ih (isPresent_of_removed acts isPresent removed)
    rw [told.2] at foundEq seen
    refine ⟨?_, seen⟩
    rw [Sight.present_cons (Backend.View.isPresent_sight.2 isPresent), ← foundEq, ← told.1]

theorem isPresent_of_removes (removes : Removes now handle keys found after) :
    view.IsPresent after := by
  induction removes with
  | nil => exact isPresent
  | cons removed _ ih => exact ih (isPresent_of_removed acts isPresent removed)

/-- What has been removed before a refusal is gone, and nothing else. -/
theorem RefusedAt.sight_eq {earlier : List Key} {cause : Refusal}
    (refusedAt : RefusedAt now handle earlier key cause after) :
    view.sight now after = (view.sight now handle).without earlier := by
  obtain ⟨found, held, removes, refused⟩ := refusedAt
  have unchanged := (acts key).of_error (isPresent_of_removes acts isPresent removes) refused
  exact unchanged.trans (removes.sight_eq acts isPresent).2

/-- All keys are removed, or there is a first one whose removal is refused. -/
theorem removes_or_refusedAt (keys : List Key) :
    (∃ found after, Removes now handle keys found after) ∨
      ∃ earlier key later cause after, keys = earlier ++ key :: later ∧
        RefusedAt now handle earlier key cause after := by
  induction keys generalizing handle with
  | nil => exact .inl ⟨[], handle, .nil⟩
  | cons key keys ih =>
    obtain ⟨held, ⟨removed, -⟩ | ⟨cause, refused, -⟩⟩ := acts key handle isPresent
    · obtain ⟨found, after, rest⟩ | ⟨earlier, other, later, cause, after, isKeys, refusedAt⟩ :=
        ih (isPresent_of_removed acts isPresent removed)
      · exact .inl ⟨_, after, .cons removed rest⟩
      · obtain ⟨found, last, removes, refused⟩ := refusedAt
        refine .inr ⟨key :: earlier, other, later, cause, after, ?_, ?_⟩
        · rw [isKeys, List.cons_append]
        · exact ⟨_, last, .cons removed removes, refused⟩
    · exact .inr ⟨[], key, keys, cause, held, rfl, [], handle, .nil, refused⟩

end

theorem Removes.keeps {sound : B.Handle → Prop}
    (kept : ∀ key, Step.Keeps sound (B.remove now key)) (isSound : sound handle)
    (removes : Removes now handle keys found after) : sound after := by
  induction removes with
  | nil => exact isSound
  | @cons handle held _ key _ _ _ removed _ ih =>
    have reached := kept key handle isSound
    rw [removed] at reached
    exact ih reached

/-! ## What is reported -/

/-- What deleting some keys comes to in a session with an open connection. -/
structure Deletes (view : B.View) (now : Instant) (session : Session B) (handle : B.Handle)
    (keys : List Key) : Prop where
  ends : (∃ found after, Removes now handle keys found after) ∨
    ∃ earlier key later cause after, keys = earlier ++ key :: later ∧
      RefusedAt now handle earlier key cause after
  /-- What is returned if no removal is refused. -/
  removed : ∀ found after, Removes now handle keys found after →
    delete now keys session
        = .ok ((view.sight now handle).present keys) { session with handle := some after } ∧
      (view.sight now handle).Loses keys (view.sight now after)
  /-- By how many keys the database has become smaller. -/
  size : ∀ sound, B.CountsKeys view sound now → sound handle →
    ∀ found after, Removes now handle keys found after → ∃ before rest,
      Step.answer? (size now session) = some (.ok before) ∧
      Step.answer? (size now { session with handle := some after }) = some (.ok rest) ∧
      before = rest + ((view.sight now handle).present keys).length
  /-- What is replied to a call. -/
  call : ∀ line first, B.find (first :: keys) = some (Entry.builtin .del, 1) →
    keys ≠ [] → keys.length < Text.wordBound →
      runCall now line (first :: keys) session
        = ((fun removed => CommandResult.mk line [.integer (Int64.ofNat removed.length)])
            <$> delete now keys) session
  /-- What is left if a removal is refused. -/
  refused : ∀ earlier key later cause after, keys = earlier ++ key :: later →
    RefusedAt now handle earlier key cause after →
      delete now keys session
          = .error (.refused (cause.error "DEL")) { session with handle := some after } ∧
        (view.sight now handle).Loses earlier (view.sight now after)

theorem answer?_size_of_counts {sound : B.Handle → Prop} (counts : B.CountsKeys view sound now)
    (connected : session.handle = some handle) (isSound : sound handle) {all : List Key}
    (lists : (view.sight now handle).Lists all) :
    Step.answer? (size now session) = some (.ok all.length) := by
  obtain ⟨listed, after, listsToo, counted⟩ := counts.count handle isSound
  have ran : size now session = .ok listed.length _ := onHandle_of_ok connected "DBKCOUNT" counted
  rw [ran, lists.eq_of_isSome_eq listsToo fun _ => rfl]
  rfl

theorem deletes (acts : B.TellsRemoved view now) (connected : session.handle = some handle)
    (isPresent : view.IsPresent handle) (keys : List Key) :
    Deletes view now session handle keys := by
  have isThere : (view.sight now handle).IsPresent := Backend.View.isPresent_sight.2 isPresent
  constructor
  · exact removes_or_refusedAt acts isPresent keys
  · intro found after removes
    obtain ⟨rfl, seen⟩ := removes.sight_eq acts isPresent
    rw [seen]
    exact ⟨removes.delete_eq connected, Sight.loses_without isThere keys⟩
  · intro sound counts isSound found after removes
    obtain ⟨all, -, lists, -⟩ := counts.count handle isSound
    have left : (view.sight now after).Lists (all.filter (· ∉ keys)) := by
      rw [(removes.sight_eq acts isPresent).2]
      exact lists.without isThere keys
    have isSoundAfter : sound after := removes.keeps counts.remove isSound
    exact ⟨_, _, answer?_size_of_counts counts connected isSound lists,
      answer?_size_of_counts counts rfl isSoundAfter left, lists.length_eq isThere keys⟩
  · intro line first meant nonempty few
    have accepted : (Builtin.del.description).accepts keys.length = true :=
      @KeyRequest.accepts_arguments (.delete keys) ⟨nonempty, few⟩
    rw [runCall_of_builtin meant accepted rfl rfl]
  · rintro earlier key later cause after rfl refusedAt
    rw [refusedAt.sight_eq acts isPresent]
    exact ⟨refusedAt.delete_eq connected, Sight.loses_without isThere earlier⟩

/-- A deletion reports exactly what it has removed.  Connections of both kinds are sound,
and both kinds count their keys and tell of a key that is removed whether it was there; and
on every backend that tells this unless it refuses, a deletion returns the keys that could
be seen, each once and in the order in which they are listed, and takes all listed keys away
and nothing else.  If a removal is refused, the keys in front are gone, and nothing else. -/
theorem delete_reports_removed :
    (∀ kind : BackendKind,
      (∀ now, kind.backend.TellsRemoved kind.view now ∧
        kind.backend.CountsKeys kind.view kind.Sound now) ∧
      (∀ keys, kind.backend.find (Text.encode "DEL" :: keys) = some (Entry.builtin .del, 1)) ∧
      ∀ (config : Config) (host : kind.backend.Host) (session : Session kind.backend)
        (handle : kind.backend.Handle), Reachable config host session →
          session.handle = some handle → kind.view.IsPresent handle ∧ kind.Sound handle) ∧
    ∀ (B : Backend) (view : B.View) (now : Instant), B.TellsRemoved view now →
      ∀ (session : Session B) (handle : B.Handle), session.handle = some handle →
        view.IsPresent handle → ∀ keys, Deletes view now session handle keys := by
  constructor
  · intro kind
    refine ⟨fun now => ⟨kind.tellsRemoved_view now, kind.tellsKeys.countsKeys now⟩,
      fun keys => ?_, fun config host session handle reachable connected => ?_⟩
    · exact KeyRequest.means_argv kind (.delete keys)
    · have sound := reachable.sound connected
      exact ⟨kind.tellsKeys.isPresent handle sound, sound⟩
  · intro B view now acts session handle connected isPresent keys
    exact deletes acts connected isPresent keys

/-- A key that is listed twice is reported once, and a refusal leaves what was removed in
front of it removed. -/
theorem delete_reports_removed_guarded :
    let items : Guarded.Items :=
      (OrderedMap.singleton (Guarded.marked "nodel") (Text.encode "v")).insert [0x62] []
    let session : Session (Guarded.backend ⟨true, false⟩) :=
      ⟨Config.forDatabase "main", (), some items, false⟩
    (∃ after, delete 0 [[0x62], [0x63], [0x62]] session = .ok [[0x62]] after) ∧
      ∃ after : Guarded.Items,
        delete 0 [[0x62], Guarded.marked "nodel", [0x63]] session
            = .error (.refused (.native 99 "DEL: refused")) { session with handle := some after } ∧
          let sight := (Guarded.view ⟨true, false⟩).sight 0 after
          sight.slot? [0x62] 0 = none ∧
            sight.slot? (Guarded.marked "nodel") 0 = some ⟨Text.encode "v", none⟩ := by
  intro items session
  have deletes := delete_reports_removed.2 _ (Guarded.view ⟨true, false⟩) 0
    (Guarded.tellsRemoved _ 0) session items rfl (by rfl)
  have isSlot : ((Guarded.view ⟨true, false⟩).sight 0 items).slot? (Guarded.marked "nodel") 0
      = some ⟨Text.encode "v", none⟩ := by decide
  constructor
  · obtain ⟨ran, -⟩ := (deletes [[0x62], [0x63], [0x62]]).removed _ _
      (.cons rfl (.cons rfl (.cons rfl .nil)))
    exact ⟨_, ran⟩
  · obtain ⟨ran, loses⟩ := (deletes [[0x62], Guarded.marked "nodel", [0x63]]).refused
      [[0x62]] _ _ _ _ rfl ⟨_, _, .cons rfl .nil, rfl⟩
    refine ⟨_, ran, loses.gone _ List.mem_cons_self 0, ?_⟩
    exact (loses.elsewhere.items _ (by decide) 0).trans isSlot

end Session

end KeyConsole
