import KeyConsole.Proofs.Databases.Maps
import KeyConsole.Proofs.Value.StoredForm

/-!
# Renaming a key

A rename gets the value of a key, puts it under the other key and removes it from the
first, and stops where one of these is refused.  The value is never lost: the second key
has it before the first one is touched.
-/

namespace KeyConsole.Session

open Storage Backend

variable {B : Backend} {view : B.View} {now : Instant} {key newKey : Key}
  {handle after : B.Handle} {session : Session B}

/-! ## Where a rename ends -/

/-- What a rename can fail at, in the order of its steps. -/
inductive RenameStep where
  /-- The backend cannot rename. -/
  | support
  | get
  /-- There is nothing under the key. -/
  | find
  | put
  | remove
  deriving DecidableEq

/-- How a rename on an open connection ends: with the step that fails and its error, or
without one. -/
inductive RenameEnds (now : Instant) (key newKey : Key) (handle : B.Handle) :
    Except (RenameStep × Error) Unit → B.Handle → Prop where
  | unsupported (lacks : B.capabilities.rename = false) :
    RenameEnds now key newKey handle
      (.error (.support, .notSupported "RENAME" B.kind.name)) handle
  | unread {cause : Refusal} {held : B.Handle} (supports : B.capabilities.rename = true)
    (refused : B.get now key handle = .error (.refused cause) held) :
    RenameEnds now key newKey handle (.error (.get, cause.error "GET")) held
  | absent {held : B.Handle} (supports : B.capabilities.rename = true)
    (got : B.get now key handle = .ok none held) :
    RenameEnds now key newKey handle (.error (.find, .keyNotFound key.shown)) held
  | itself {raw : Bytes} {held : B.Handle} (supports : B.capabilities.rename = true)
    (got : B.get now key handle = .ok (some raw) held) (same : key = newKey) :
    RenameEnds now key newKey handle (.ok ()) held
  | unwritten {raw : Bytes} {cause : Refusal} {held last : B.Handle}
    (supports : B.capabilities.rename = true)
    (got : B.get now key handle = .ok (some raw) held) (different : key ≠ newKey)
    (refused : B.put now newKey (Value.decode raw).encode held
      = .error (.refused cause) last) :
    RenameEnds now key newKey handle (.error (.put, cause.error "SET")) last
  | unremoved {raw : Bytes} {cause : Refusal} {held written last : B.Handle}
    (supports : B.capabilities.rename = true)
    (got : B.get now key handle = .ok (some raw) held) (different : key ≠ newKey)
    (put : B.put now newKey (Value.decode raw).encode held = .ok () written)
    (refused : B.remove now key written = .error (.refused cause) last) :
    RenameEnds now key newKey handle (.error (.remove, cause.error "DEL")) last
  | moved {raw : Bytes} {found : Bool} {held written last : B.Handle}
    (supports : B.capabilities.rename = true)
    (got : B.get now key handle = .ok (some raw) held) (different : key ≠ newKey)
    (put : B.put now newKey (Value.decode raw).encode held = .ok () written)
    (removed : B.remove now key written = .ok found last) :
    RenameEnds now key newKey handle (.ok ()) last

/-- The outcome of an operation that ends in a session with or without an error. -/
def conclude (session : Session B) :
    Except (RenameStep × Error) Unit → EStateM.Result (Halt Error) (Session B) Unit
  | .ok _ => .ok () session
  | .error (_, cause) => .error (.refused cause) session

section

variable (connected : session.handle = some handle)

include connected

theorem set_of_ok {item : Item}
    (ran : B.put now item.key item.value.encode handle = .ok () after) :
    set now item session = .ok item { session with handle := some after } :=
  Step.bind_of_ok (onHandle_of_ok connected "SET" ran)

theorem set_of_error {item : Item} {cause : Refusal}
    (ran : B.put now item.key item.value.encode handle = .error (.refused cause) after) :
    set now item session
      = .error (.refused (cause.error "SET")) { session with handle := some after } :=
  Step.bind_of_error (onHandle_of_error connected "SET" ran)

theorem delete_of_ok {found : Bool} (ran : B.remove now key handle = .ok found after) :
    delete now [key] session
      = .ok (if found then [key] else []) { session with handle := some after } := by
  rw [delete, Step.bind_of_ok (requireConnected_of_connected connected), deleteFrom,
    Step.bind_of_ok (onHandle_of_ok connected "DEL" ran)]
  rfl

theorem delete_of_error {cause : Refusal}
    (ran : B.remove now key handle = .error (.refused cause) after) :
    delete now [key] session
      = .error (.refused (cause.error "DEL")) { session with handle := some after } := by
  rw [delete, Step.bind_of_ok (requireConnected_of_connected connected), deleteFrom,
    Step.bind_of_error (onHandle_of_error connected "DEL" ran)]

theorem rename_of_supports (supports : B.capabilities.rename = true) :
    rename now key newKey session
      = (do
          let item ← get now key
          if key = newKey then pure ()
          else
            let _ ← set now ⟨newKey, item.value⟩
            let _ ← delete now [key] : Action B Unit) session := by
  rw [rename, Step.bind_of_ok (requireConnected_of_connected connected), if_pos supports]

/-- A rename does what its end says. -/
theorem rename_eq_conclude {verdict : Except (RenameStep × Error) Unit}
    (ends : RenameEnds now key newKey handle verdict after) :
    rename now key newKey session = conclude { session with handle := some after } verdict := by
  cases ends with
  | unsupported lacks =>
    rw [rename, Step.bind_of_ok (requireConnected_of_connected connected), if_neg (by simp [lacks]),
      ← connected]
    rfl
  | unread supports refused =>
    rw [rename_of_supports connected supports]
    exact Step.bind_of_error (Step.bind_of_error (onHandle_of_error connected "GET" refused))
  | absent supports got =>
    rw [rename_of_supports connected supports]
    have missing : get now key session
        = .error (.refused (.keyNotFound key.shown)) { session with handle := some after } :=
      Step.bind_of_ok (onHandle_of_ok connected "GET" got)
    exact Step.bind_of_error missing
  | itself supports got same =>
    rw [rename_of_supports connected supports, Step.bind_of_ok (get_of_read connected got),
      if_pos same]
    rfl
  | unwritten supports got different refused =>
    rw [rename_of_supports connected supports, Step.bind_of_ok (get_of_read connected got),
      if_neg different, Step.bind_of_error (set_of_error rfl refused)]
    rfl
  | unremoved supports got different put refused =>
    rw [rename_of_supports connected supports, Step.bind_of_ok (get_of_read connected got),
      if_neg different, Step.bind_of_ok (set_of_ok rfl put),
      Step.bind_of_error (delete_of_error rfl refused)]
    rfl
  | moved supports got different put removed =>
    rw [rename_of_supports connected supports, Step.bind_of_ok (get_of_read connected got),
      if_neg different, Step.bind_of_ok (set_of_ok rfl put),
      Step.bind_of_ok (delete_of_ok rfl removed)]
    rfl

end

/-! ## What a rename changes -/

/-- The second key gets the value of the first, without a deadline. -/
def carry (sight : Sight) (key newKey : Key) : Sight :=
  match sight.slot? key 0 with
  | none => sight
  | some slot => sight.replace newKey (some ⟨(Value.decode slot.value).encode, none⟩)

theorem isPresent_carry {sight : Sight} (present : sight.IsPresent) (key newKey : Key) :
    (carry sight key newKey).IsPresent := by
  unfold carry
  split
  · exact present
  · exact present.replace newKey _

theorem slot?_carry {sight : Sight} (present : sight.IsPresent) {slot : Slot}
    (isSlot : sight.slot? key 0 = some slot) (other : Key) (later : Instant) :
    (carry sight key newKey).slot? other later
      = if other = newKey then some ⟨(Value.decode slot.value).encode, none⟩
        else sight.slot? other later := by
  rw [carry, isSlot]
  exact Sight.slot?_replace present newKey _ other later

theorem sameBut_carry {sight : Sight} (present : sight.IsPresent) {keys : List Key}
    (mem : newKey ∈ keys) (key : Key) : sight.SameBut keys (carry sight key newKey) := by
  unfold carry
  split
  · exact .refl _ sight
  · exact (Sight.SameBut.refl _ sight).replace present mem _

/-- What can be seen after a rename that ends in a given way. -/
def renamed (sight : Sight) (key newKey : Key) : Except (RenameStep × Error) Unit → Sight
  | .ok _ => if key = newKey then sight else (carry sight key newKey).replace key none
  | .error (.remove, _) => carry sight key newKey
  | .error _ => sight

theorem sameBut_renamed {sight : Sight} (present : sight.IsPresent) (key newKey : Key)
    (verdict : Except (RenameStep × Error) Unit) :
    sight.SameBut [key, newKey] (renamed sight key newKey verdict) := by
  have carried : sight.SameBut [key, newKey] (carry sight key newKey) :=
    sameBut_carry present (by simp) key
  match verdict with
  | .ok _ =>
    rw [renamed]
    split
    · exact .refl _ sight
    · exact carried.replace (isPresent_carry present key newKey) List.mem_cons_self none
  | .error (.remove, _) => exact carried
  | .error (.support, _) | .error (.get, _) | .error (.find, _) | .error (.put, _) =>
    exact .refl _ sight

theorem renamed_of_ne_remove (sight : Sight) (key newKey : Key) {step : RenameStep}
    (other : step ≠ .remove) (cause : Error) :
    renamed sight key newKey (.error (step, cause)) = sight := by
  cases step with
  | remove => exact absurd rfl other
  | support | get | find | put => rfl

section

variable (acts : B.ActsOnMaps view now) (present : view.IsPresent handle)

include acts present

theorem exists_renameEnds (key newKey : Key) :
    ∃ verdict after, RenameEnds now key newKey handle verdict after := by
  cases supports : B.capabilities.rename with
  | false => exact ⟨_, _, .unsupported supports⟩
  | true =>
    obtain ⟨held, ⟨got, seen⟩ | ⟨cause, refused, -⟩⟩ := acts.get key handle present
    · have presentHeld : view.IsPresent held :=
        View.isPresent_of_sight_eq seen (View.isPresent_sight.2 present)
      cases found : (view.sight now handle).slot? key 0 with
      | none =>
        simp only [found, Option.map_none] at got
        exact ⟨_, _, .absent supports got⟩
      | some slot =>
        simp only [found, Option.map_some] at got
        by_cases same : key = newKey
        · exact ⟨_, _, .itself supports got same⟩
        · obtain ⟨written, ⟨put, seenPut⟩ | ⟨cause, refused, -⟩⟩ :=
            acts.put newKey (Value.decode slot.value).encode held presentHeld
          · have presentWritten : view.IsPresent written :=
              View.isPresent_of_sight_eq seenPut
                (Sight.IsPresent.replace (View.isPresent_sight.2 presentHeld) _ _)
            obtain ⟨last, ⟨removed, -⟩ | ⟨cause, refused, -⟩⟩ :=
              acts.remove key written presentWritten
            · obtain ⟨found, told⟩ := Step.discard_eq_ok_iff.1 removed
              exact ⟨_, _, .moved supports got same put told⟩
            · exact ⟨_, _, .unremoved supports got same put (Step.discard_eq_error_iff.1 refused)⟩
          · exact ⟨_, _, .unwritten supports got same refused⟩
    · exact ⟨_, _, .unread supports refused⟩

/-- What is got from a key is what can be seen, which stays as it is. -/
theorem sight_of_got {raw : Bytes} (got : B.get now key handle = .ok (some raw) after) :
    view.sight now after = view.sight now handle ∧
      ∃ deadline, (view.sight now handle).slot? key 0 = some ⟨raw, deadline⟩ := by
  obtain ⟨found, seen⟩ := (acts.get key).of_ok present got
  obtain ⟨slot, isSlot, rfl⟩ := Option.map_eq_some_iff.1 found.symm
  exact ⟨seen, slot.deadline, isSlot⟩

/-- What is put under the second key is what it carries over. -/
theorem sight_of_put {raw : Bytes} {held : B.Handle}
    (got : B.get now key handle = .ok (some raw) held)
    (put : B.put now newKey (Value.decode raw).encode held = .ok () after) :
    view.sight now after = carry (view.sight now handle) key newKey := by
  obtain ⟨seen, deadline, isSlot⟩ := sight_of_got acts present got
  have presentHeld : view.IsPresent held :=
    View.isPresent_of_sight_eq seen (View.isPresent_sight.2 present)
  rw [((acts.put newKey _).of_ok presentHeld put).2, seen, carry, isSlot]

/-- After a rename, exactly what its end says can be seen. -/
theorem RenameEnds.sight_eq {verdict : Except (RenameStep × Error) Unit}
    (ends : RenameEnds now key newKey handle verdict after) :
    view.sight now after = renamed (view.sight now handle) key newKey verdict := by
  cases ends with
  | unsupported lacks => rfl
  | unread supports refused => exact (acts.get key).of_error present refused
  | absent supports got => exact ((acts.get key).of_ok present got).2
  | itself supports got same =>
    rw [renamed, if_pos same]
    exact (sight_of_got acts present got).1
  | unwritten supports got different refused =>
    obtain ⟨seen, -⟩ := sight_of_got acts present got
    have presentHeld := View.isPresent_of_sight_eq seen (View.isPresent_sight.2 present)
    exact ((acts.put newKey _).of_error presentHeld refused).trans seen
  | unremoved supports got different put refused =>
    have seen := sight_of_put acts present got put
    have presentWritten := View.isPresent_of_sight_eq seen
      (isPresent_carry (View.isPresent_sight.2 present) key newKey)
    have halted := Step.discard_eq_error_iff.2 refused
    exact ((acts.remove key).of_error presentWritten halted).trans seen
  | moved supports got different put removed =>
    have seen := sight_of_put acts present got put
    have presentWritten := View.isPresent_of_sight_eq seen
      (isPresent_carry (View.isPresent_sight.2 present) key newKey)
    have done := Step.discard_eq_ok_iff.2 ⟨_, removed⟩
    rw [renamed, if_neg different, ((acts.remove key).of_ok presentWritten done).2, seen]

end

/-! ## The value of the key -/

/-- There is a value under a key from now on, without a deadline. -/
def Holds (sight : Sight) (key : Key) (value : Value) : Prop :=
  ∃ raw, Value.decode raw = value ∧ ∀ later, sight.slot? key later = some ⟨raw, none⟩

theorem holds_carry {sight : Sight} (present : sight.IsPresent) {slot : Slot}
    (isSlot : sight.slot? key 0 = some slot) (short : slot.value.length < Text.wordBound) :
    Holds (carry sight key newKey) newKey (Value.decode slot.value) := by
  refine ⟨(Value.decode slot.value).encode,
    Value.decode_encode (Value.isStorable_decode short), fun later => ?_⟩
  rw [slot?_carry present isSlot, if_pos rfl]

/-- What a rename does with the value of the key.  Stored bytes are fewer than a word can
count. -/
structure SavesValue (supports : Bool) (key newKey : Key) (before after : Sight)
    (verdict : Except (RenameStep × Error) Unit) : Prop where
  elsewhere : before.SameBut [key, newKey] after
  unchanged : ∀ step cause, verdict = .error (step, cause) → step ≠ .remove → after = before
  moved : key ≠ newKey → verdict = .ok () → ∀ slot, before.slot? key 0 = some slot →
    slot.value.length < Text.wordBound →
      (∀ later, after.slot? key later = none) ∧ Holds after newKey (Value.decode slot.value)
  kept : key ≠ newKey → ∀ failure, verdict = .error failure →
    ∀ later, after.slot? key later = before.slot? key later
  copied : key ≠ newKey → ∀ cause, verdict = .error (.remove, cause) →
    ∀ slot, before.slot? key 0 = some slot → slot.value.length < Text.wordBound →
      Holds after newKey (Value.decode slot.value)
  itself : key = newKey → after = before
  itself_fails_iff : supports = true → key = newKey → (∀ cause, verdict ≠ .error (.get, cause)) →
    ((∃ failure, verdict = .error failure) ↔ before.slot? key 0 = none) ∧
      ∀ failure, verdict = .error failure → failure = (.find, .keyNotFound key.shown)

theorem holds_renamed {sight : Sight} (present : sight.IsPresent) (different : key ≠ newKey)
    {slot : Slot} (isSlot : sight.slot? key 0 = some slot)
    (short : slot.value.length < Text.wordBound) :
    (∀ later, (renamed sight key newKey (.ok ())).slot? key later = none) ∧
      Holds (renamed sight key newKey (.ok ())) newKey (Value.decode slot.value) := by
  have presentCarry := isPresent_carry present key newKey
  have carried : Holds (carry sight key newKey) newKey (Value.decode slot.value) :=
    holds_carry present isSlot short
  obtain ⟨raw, isValue, isHeld⟩ := carried
  rw [renamed, if_neg different]
  refine ⟨fun later => ?_, raw, isValue, fun later => ?_⟩
  · rw [Sight.slot?_replace presentCarry, if_pos rfl]
  · rw [Sight.slot?_replace presentCarry, if_neg different.symm, isHeld]

theorem slot?_renamed_of_error {sight : Sight} (present : sight.IsPresent)
    (different : key ≠ newKey) (failure : RenameStep × Error) (later : Instant) :
    (renamed sight key newKey (.error failure)).slot? key later = sight.slot? key later := by
  obtain ⟨step, cause⟩ := failure
  by_cases isRemove : step = .remove
  · subst isRemove
    have carried : sight.SameBut [newKey] (carry sight key newKey) :=
      sameBut_carry present (List.mem_singleton_self newKey) key
    exact carried.items key (by simpa using different) later
  · rw [renamed_of_ne_remove _ _ _ isRemove]

theorem renamed_self (sight : Sight) {verdict : Except (RenameStep × Error) Unit}
    (ends : RenameEnds now key key handle verdict after) :
    renamed sight key key verdict = sight := by
  cases ends with
  | unsupported lacks => rfl
  | unread supports refused => rfl
  | absent supports got => rfl
  | itself supports got same => exact if_pos rfl
  | unwritten supports got different refused => exact absurd rfl different
  | unremoved supports got different put refused => exact absurd rfl different
  | moved supports got different put removed => exact absurd rfl different

/-- A key that is renamed to itself is only looked for. -/
theorem RenameEnds.self_fails_iff (acts : B.ActsOnMaps view now) (present : view.IsPresent handle)
    {verdict : Except (RenameStep × Error) Unit}
    (ends : RenameEnds now key key handle verdict after)
    (supports : B.capabilities.rename = true)
    (answered : ∀ cause, verdict ≠ .error (.get, cause)) :
    ((∃ failure, verdict = .error failure) ↔ (view.sight now handle).slot? key 0 = none) ∧
      ∀ failure, verdict = .error failure → failure = (.find, .keyNotFound key.shown) := by
  cases ends with
  | unsupported lacks =>
    rw [lacks] at supports
    cases supports
  | unread _ refused => exact absurd rfl (answered _)
  | absent _ got =>
    have missing : (view.sight now handle).slot? key 0 = none :=
      Option.map_eq_none_iff.1 ((acts.get key).of_ok present got).1.symm
    refine ⟨iff_of_true ⟨_, rfl⟩ missing, ?_⟩
    rintro _ ⟨⟩
    rfl
  | itself _ got same =>
    obtain ⟨-, deadline, isSlot⟩ := sight_of_got acts present got
    exact ⟨iff_of_false nofun (by simp [isSlot]), nofun⟩
  | unwritten _ got different refused => exact absurd rfl different
  | unremoved _ got different put refused => exact absurd rfl different
  | moved _ got different put removed => exact absurd rfl different

/-- Whatever a rename comes to, it saves the value. -/
theorem savesValue (acts : B.ActsOnMaps view now) (present : view.IsPresent handle)
    {verdict : Except (RenameStep × Error) Unit}
    (ends : RenameEnds now key newKey handle verdict after) :
    SavesValue B.capabilities.rename key newKey (view.sight now handle) (view.sight now after)
      verdict := by
  have isThere : (view.sight now handle).IsPresent := View.isPresent_sight.2 present
  rw [ends.sight_eq acts present]
  constructor
  · exact sameBut_renamed isThere key newKey verdict
  · rintro step cause rfl other
    exact renamed_of_ne_remove _ _ _ other cause
  · rintro different rfl slot isSlot short
    exact holds_renamed isThere different isSlot short
  · rintro different failure rfl later
    exact slot?_renamed_of_error isThere different failure later
  · rintro different cause rfl slot isSlot short
    exact holds_carry isThere isSlot short
  · rintro rfl
    exact renamed_self _ ends
  · rintro supports rfl answered
    exact ends.self_fails_iff acts present supports answered

/-- A rename never loses the value, wherever it fails.  Both kinds of backends act on maps
and their connections have a current database; and on every backend that acts on maps
unless it refuses, a rename ends without breaking down.  It succeeds with the value under
the second key alone, or fails with the first key as it was; nothing at all has changed
then, unless it was the removal that failed, and the value is under both keys. -/
theorem rename_keeps_value :
    (∀ kind : BackendKind, (∀ now, kind.backend.ActsOnMaps kind.view now) ∧
      ∀ (config : Config) (host : kind.backend.Host) (session : Session kind.backend)
        (handle : kind.backend.Handle), Reachable config host session →
          session.handle = some handle → kind.view.IsPresent handle) ∧
    ∀ (B : Backend) (view : B.View) (now : Instant), B.ActsOnMaps view now →
      ∀ (session : Session B) (handle : B.Handle),
        session.handle = some handle → view.IsPresent handle → ∀ key newKey : Key,
          ∃ verdict after, RenameEnds now key newKey handle verdict after ∧
            rename now key newKey session
              = conclude { session with handle := some after } verdict ∧
            SavesValue B.capabilities.rename key newKey (view.sight now handle)
              (view.sight now after) verdict := by
  constructor
  · intro kind
    refine ⟨kind.actsOnMaps_view, fun config host session handle reachable connected => ?_⟩
    exact reachable.isPresent kind.separates_view connected
  · intro B view now acts session handle connected present key newKey
    obtain ⟨verdict, after, ends⟩ := exists_renameEnds acts present key newKey
    exact ⟨verdict, after, ends, rename_eq_conclude connected ends,
      savesValue acts present ends⟩

/-- Where the removal is refused, the value is under both keys. -/
theorem rename_keeps_value_unremoved :
    let items : Guarded.Items := .singleton (Guarded.marked "nodel") (Text.encode "v")
    let session : Session (Guarded.backend ⟨true, false⟩) :=
      ⟨Config.forDatabase "main", (), some items, false⟩
    ∃ after : Guarded.Items,
      rename 0 (Guarded.marked "nodel") (Text.encode "b") session
          = .error (.refused (.native 99 "DEL: refused")) { session with handle := some after } ∧
        let sight := (Guarded.view ⟨true, false⟩).sight 0 after
        sight.slot? (Guarded.marked "nodel") 0 = some ⟨Text.encode "v", none⟩ ∧
          Holds sight (Text.encode "b") (.string "v") := by
  intro items session
  obtain ⟨verdict, after, ends, ran, saves⟩ :=
    rename_keeps_value.2 _ (Guarded.view ⟨true, false⟩) 0 (Guarded.actsOnMaps _ 0) session items
      rfl (by rfl) (Guarded.marked "nodel") (Text.encode "b")
  have isSlot : ((Guarded.view ⟨true, false⟩).sight 0 items).slot? (Guarded.marked "nodel") 0
      = some ⟨Text.encode "v", none⟩ := by decide
  refine ⟨after, ?_⟩
  cases ends with
  | unsupported lacks => cases lacks
  | unread supports refused => cases refused
  | absent supports got => cases got
  | itself supports got same => exact absurd same (by decide)
  | unwritten supports got different refused => cases refused
  | unremoved supports got different put refused =>
    cases got
    cases put
    cases refused
    refine ⟨ran, (saves.kept different _ rfl 0).trans isSlot, ?_⟩
    rw [← Value.decode_encode_text]
    exact saves.copied different _ rfl _ isSlot (by decide)
  | moved supports got different put removed => cases removed

end KeyConsole.Session
