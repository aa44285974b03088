import KeyConsole.Proofs.Databases.Separation

/-!
# Databases that stay apart

On a backend that keeps its databases apart, the current database of a connected session
is always there, whatever the session has been through.  From there on an operation on
items reaches the current database alone, and the operations on databases change exactly
what they name, or refuse and change nothing.
-/

namespace KeyConsole

variable {B : Backend} {view : B.View}

/-! ## The current database -/

namespace Backend.Separates

variable (separates : B.Separates view)

include separates

/-- Creating a database refuses and changes nothing, or adds one without items. -/
theorem createDatabase_cases (name : String) (handle : B.Handle) :
    (∃ cause, B.createDatabase name handle = .error (.refused cause) handle) ∨
      view.catalog handle name = none ∧
        ∃ after, B.createDatabase name handle = .ok () after ∧
          B.currentDatabase after = B.currentDatabase handle ∧
          view.catalog after
            = Function.update (view.catalog handle) name (some Catalog.noItems) := by
  by_cases refused : Text.isBlankText name = true ∨ (view.catalog handle name).isSome = true
  · exact Or.inl (separates.createDatabase_refused refused)
  · rw [not_or, Bool.not_eq_true, Bool.not_eq_true, Option.isSome_eq_false_iff,
      Option.isNone_iff_eq_none] at refused
    exact Or.inr ⟨refused.2, separates.createDatabase_ok refused.1 refused.2⟩

/-- Removing a database halts and changes nothing, or takes away one that is not current. -/
theorem removeDatabase_cases (name : String) (handle : B.Handle) :
    (∃ halt, B.removeDatabase name handle = .error halt handle) ∨
      name ≠ B.currentDatabase handle ∧
        ∃ after, B.removeDatabase name handle = .ok () after ∧
          B.currentDatabase after = B.currentDatabase handle ∧
          view.catalog after = Function.update (view.catalog handle) name none := by
  by_cases askable : view.Askable name
  · by_cases isCurrent : name = B.currentDatabase handle
    · subst isCurrent
      exact Or.inl ⟨_, separates.removeDatabase_inUse handle⟩
    · cases found : view.catalog handle name with
      | none => exact Or.inl ⟨_, separates.removeDatabase_missing askable isCurrent found⟩
      | some items =>
        have isThere := Option.isSome_of_eq_some found
        exact Or.inr ⟨isCurrent, separates.removeDatabase_ok askable isCurrent isThere⟩
  · exact Or.inl (separates.removeDatabase_not_askable handle askable)

/-- Selecting a database halts and changes nothing, or makes one current that is there. -/
theorem selectDatabase_cases (name : String) (handle : B.Handle) :
    (∃ halt, B.selectDatabase name handle = .error halt handle) ∨
      (view.catalog handle name).isSome = true ∧
        ∃ after, B.selectDatabase name handle = .ok () after ∧
          B.currentDatabase after = name ∧ view.catalog after = view.catalog handle := by
  by_cases askable : view.Askable name
  · cases found : view.catalog handle name with
    | none => exact Or.inl ⟨_, separates.selectDatabase_missing askable found⟩
    | some items =>
      have isThere := Option.isSome_of_eq_some found
      exact Or.inr ⟨rfl, separates.selectDatabase_ok askable isThere⟩
  · exact Or.inl (separates.selectDatabase_not_askable handle askable)

theorem isPresent_createDatabase (name : String) {handle : B.Handle}
    (present : view.IsPresent handle) :
    view.IsPresent (Step.finalState (B.createDatabase name handle)) := by
  rcases separates.createDatabase_cases name handle with
    ⟨cause, ran⟩ | ⟨missing, after, ran, current, changed⟩
  · rwa [ran]
  · have other : B.currentDatabase handle ≠ name := by
      rintro rfl
      rw [Backend.View.IsPresent, missing] at present
      cases present
    rw [ran, Step.finalState, Backend.View.IsPresent, current, changed,
      Function.update_of_ne other]
    exact present

theorem isPresent_removeDatabase (name : String) {handle : B.Handle}
    (present : view.IsPresent handle) :
    view.IsPresent (Step.finalState (B.removeDatabase name handle)) := by
  rcases separates.removeDatabase_cases name handle with
    ⟨halt, ran⟩ | ⟨other, after, ran, current, changed⟩
  · rwa [ran]
  · rw [ran, Step.finalState, Backend.View.IsPresent, current, changed,
      Function.update_of_ne other.symm]
    exact present

theorem isPresent_selectDatabase (name : String) {handle : B.Handle}
    (present : view.IsPresent handle) :
    view.IsPresent (Step.finalState (B.selectDatabase name handle)) := by
  rcases separates.selectDatabase_cases name handle with
    ⟨halt, ran⟩ | ⟨found, after, ran, current, unchanged⟩
  · rwa [ran]
  · rwa [ran, Step.finalState, Backend.View.IsPresent, current, unchanged]

/-- No action loses the current database. -/
theorem keeps_isPresent (primitive : Primitive B) : primitive.Keeps view.IsPresent := by
  intro now handle present
  have ofReads {α : Type} {act : HandleAction B.Handle α}
      (reads : (view.confinement now).Reads act) : view.IsPresent (Step.finalState (act handle)) :=
    (reads handle present).1.present
  have ofConfines {α : Type} {act : HandleAction B.Handle α}
      (confines : (view.confinement now).Confines act) :
      view.IsPresent (Step.finalState (act handle)) :=
    (confines handle present).1.present
  cases primitive with
  | get key => exact ofReads (separates.get now key)
  | put key raw => exact ofConfines (separates.put now key raw).confines
  | remove key => exact ofConfines (separates.remove now key).confines
  | keys => exact ofReads (separates.keys now)
  | rangeKeys first last limit => exact ofReads (separates.rangeKeys now first last limit)
  | count => exact ofReads (separates.count now)
  | clear => exact ofConfines (separates.clear now).confines
  | databases =>
    obtain ⟨names, listed, _⟩ := separates.databases handle
    rw [Primitive.after, listed]
    exact present
  | createDatabase name => exact separates.isPresent_createDatabase name present
  | removeDatabase name => exact separates.isPresent_removeDatabase name present
  | selectDatabase name => exact separates.isPresent_selectDatabase name present
  | statsText => exact ofReads (separates.statsText now)
  | expire key seconds => exact ofConfines (separates.expire now key seconds)
  | ttl key => exact ofReads (separates.ttl now key)
  | extra command own args => exact ofReads (separates.extra command own now args)

end Backend.Separates

namespace Session

/-- The current database of a connected session is there, whatever has been done with
the session since it began. -/
theorem Reachable.isPresent (separates : B.Separates view) {config : Config} {host : B.Host}
    {session : Session B} (reachable : Reachable config host session) {handle : B.Handle}
    (connected : session.handle = some handle) : view.IsPresent handle :=
  reachable.upholds (fun _ _ _ _ acquired => separates.acquired acquired)
    separates.keeps_isPresent handle connected

/-! ## Operations of a connected session -/

/-- An operation takes a session from one handle to another and changes nothing of the
databases but the items of the current one, and not even those if it fails. -/
structure Inside {α : Type} (view : B.View) (now : Instant) (session : Session B)
    (handle after : B.Handle) (operation : Action B α) : Prop where
  finalState_eq : Step.finalState (operation session) = { session with handle := some after }
  current : B.currentDatabase after = B.currentDatabase handle
  present : (view.catalog after (B.currentDatabase handle)).isSome = true
  others : ∀ name, name ≠ B.currentDatabase handle →
    view.catalog after name = view.catalog handle name
  failed : ∀ halt last, operation session = .error halt last →
    (view.catalog after).since now = (view.catalog handle).since now

/-- An operation stays in the current database. -/
def StaysInside {α : Type} (view : B.View) (now : Instant) (session : Session B)
    (handle : B.Handle) (operation : Action B α) : Prop :=
  ∃ after, Inside view now session handle after operation

theorem staysInside_of_confines {α : Type} {now : Instant} {session : Session B} {handle : B.Handle}
    (connected : session.handle = some handle) (present : view.IsPresent handle)
    {operation : Action B α}
    (confines : (confinement (view.confinement now)).Confines operation) :
    StaysInside view now session handle operation := by
  obtain ⟨⟨held, after, isHeld, ended, near⟩, same⟩ := confines session ⟨handle, connected, present⟩
  cases connected.symm.trans isHeld
  refine ⟨after, ended, near.current, near.current ▸ near.present, near.others, ?_⟩
  intro halt last halted
  obtain ⟨other, lastHandle, isOther, isLast, unchanged⟩ := same halt last halted
  cases connected.symm.trans isOther
  rw [halted] at ended
  cases isLast.symm.trans ended
  exact unchanged.2

/-- What can be done with the databases of a connected session at an instant. -/
structure Apart (view : B.View) (now : Instant) (session : Session B) (handle : B.Handle) :
    Prop where
  databases : ∃ names, databases session = .ok names session ∧
    B.currentDatabase handle ∈ names ∧
      ∀ name, name ∈ names ↔ (view.catalog handle name).isSome = true
  set : ∀ item, StaysInside view now session handle (set now item)
  delete : ∀ keys, StaysInside view now session handle (delete now keys)
  rename : ∀ key newKey, StaysInside view now session handle (rename now key newKey)
  expire : ∀ key seconds, StaysInside view now session handle (expire now key seconds)
  flush : StaysInside view now session handle flush
  get : ∀ key, StaysInside view now session handle (get now key)
  scan : ∀ cursor pattern count,
    StaysInside view now session handle (scan now cursor pattern count)
  keys : ∀ first last limit, StaysInside view now session handle (keys now first last limit)
  size : StaysInside view now session handle (size now)
  extra : ∀ command ∈ B.extraCommands, ∀ args,
    StaysInside view now session handle (onHandle command.info.name (command.run now args))
  ttl : ∀ key, StaysInside view now session handle (ttl now key)
  createDatabase_refused : ∀ name,
    Text.isBlankText name = true ∨ (view.catalog handle name).isSome = true →
      ∃ cause, createDatabase name session = .error (.refused cause) session
  createDatabase_ok : ∀ name, Text.isBlankText name = false → view.catalog handle name = none →
    ∃ after, createDatabase name session
        = .ok (emptyInfo B name) { session with handle := some after } ∧
      B.currentDatabase after = B.currentDatabase handle ∧
      view.catalog after = Function.update (view.catalog handle) name (some Catalog.noItems)
  removeDatabase_current : removeDatabase (B.currentDatabase handle) session
    = .error (.refused (.native view.inUseCode
        ("REMOVEDB: " ++ view.inUseText (B.currentDatabase handle)))) session
  removeDatabase_missing : ∀ name, view.Askable name → name ≠ B.currentDatabase handle →
    view.catalog handle name = none →
      removeDatabase name session = .error (.refused (.databaseNotFound name)) session
  removeDatabase_ok : ∀ name, view.Askable name → name ≠ B.currentDatabase handle →
    (view.catalog handle name).isSome = true →
      ∃ after, removeDatabase name session
          = .ok (emptyInfo B name) { session with handle := some after } ∧
        B.currentDatabase after = B.currentDatabase handle ∧
        view.catalog after = Function.update (view.catalog handle) name none
  selectDatabase_missing : ∀ name, view.Askable name → view.catalog handle name = none →
    selectDatabase now name session = .error (.refused (.databaseNotFound name)) session
  selectDatabase_ok : ∀ name, view.Askable name → (view.catalog handle name).isSome = true →
    ∃ info after, selectDatabase now name session
        = .ok info { session with handle := some after } ∧
      B.currentDatabase after = name ∧
      (view.catalog after).since now = (view.catalog handle).since now ∧
      ∀ other, other ≠ name → view.catalog after other = view.catalog handle other

section

variable {session : Session B} {handle held : B.Handle} {now : Instant} {name : String}

/-- An action that refuses and changes nothing leaves the session as it is. -/
theorem onHandle_of_refused {α : Type} {command : String} {act : HandleAction B.Handle α}
    {cause : Refusal} (connected : session.handle = some handle)
    (refused : act handle = .error (.refused cause) handle) :
    onHandle command act session = .error (.refused (cause.error command)) session := by
  simp only [onHandle, connected, refused]
  rw [← connected]
  rfl

/-- So does an action that succeeds and changes nothing. -/
theorem onHandle_of_unchanged {α : Type} {command : String} {act : HandleAction B.Handle α}
    {result : α} (connected : session.handle = some handle)
    (ran : act handle = .ok result handle) : onHandle command act session = .ok result session := by
  simp only [onHandle, connected, ran]
  rw [← connected]

/-- The current database is described once it has been counted. -/
theorem currentInfo_of_counted {size : Nat} (connected : session.handle = some handle)
    (counted : B.count now handle = .ok size held) :
    currentInfo now session
      = .ok { backend := B.kind, name := B.currentDatabase held, isDefault := true, size := size }
          { session with handle := some held } := by
  have first : Session.size now session = .ok size { session with handle := some held } :=
    onHandle_eq_ok_iff.2 ⟨handle, held, connected, counted, rfl⟩
  exact Step.bind_of_ok first

theorem currentInfo_eq_ok {size : Nat} (connected : session.handle = some handle)
    (counted : B.count now handle = .ok size held) :
    ∃ info, currentInfo now session = .ok info { session with handle := some held } :=
  ⟨_, currentInfo_of_counted connected counted⟩

theorem selectDatabase_eq_ok (separates : B.Separates view)
    (connected : session.handle = some handle)
    (selected : B.selectDatabase name handle = .ok () held) (present : view.IsPresent held) :
    ∃ info after, selectDatabase now name session
        = .ok info { session with handle := some after } ∧
      (view.confinement now).same held after := by
  obtain ⟨size, after, counted⟩ := separates.count_ok now held present
  have same := separates.count now held present
  rw [counted] at same
  have first : onHandle "SELECT" (B.selectDatabase name) session
      = .ok () { session with handle := some held } :=
    onHandle_eq_ok_iff.2 ⟨handle, held, connected, selected, rfl⟩
  have described : ∃ info, currentInfo now { session with handle := some held }
      = .ok info { session with handle := some after } :=
    currentInfo_eq_ok rfl counted
  obtain ⟨info, second⟩ := described
  refine ⟨info, after, ?_, same⟩
  rw [selectDatabase, Step.bind_of_ok first, second]

/-- On a backend that keeps its databases apart, so does a session whose current database
is there. -/
theorem apart (separates : B.Separates view) (now : Instant)
    (connected : session.handle = some handle) (present : view.IsPresent handle) :
    Apart view now session handle where
  databases := by
    obtain ⟨names, listed, isName⟩ := separates.databases handle
    exact ⟨names, onHandle_of_unchanged connected listed, (isName _).2 present, isName⟩
  set item := staysInside_of_confines connected present (writes_set separates now item).confines
  delete keys :=
    staysInside_of_confines connected present (writes_delete separates now keys).confines
  rename key newKey :=
    staysInside_of_confines connected present (confines_rename separates now key newKey)
  expire key seconds :=
    staysInside_of_confines connected present (confines_expire separates now key seconds)
  flush :=
    staysInside_of_confines connected present
      (writes_onHandle "FLUSHDB" (separates.clear now)).confines
  get key := staysInside_of_confines connected present (reads_get separates now key).confines
  scan cursor pattern count :=
    staysInside_of_confines connected present
      (reads_scan separates now cursor pattern count).confines
  keys first last limit :=
    staysInside_of_confines connected present (reads_keys separates now first last limit).confines
  size :=
    staysInside_of_confines connected present
      (reads_onHandle "DBKCOUNT" (separates.count now)).confines
  extra command own args :=
    staysInside_of_confines connected present
      (reads_onHandle command.info.name (separates.extra command own now args)).confines
  ttl key := staysInside_of_confines connected present (reads_ttl separates now key).confines
  createDatabase_refused name refused := by
    obtain ⟨cause, ran⟩ := separates.createDatabase_refused refused
    exact ⟨_, Step.bind_of_error (onHandle_of_refused connected ran)⟩
  createDatabase_ok name visible missing := by
    obtain ⟨after, ran, current, changed⟩ := separates.createDatabase_ok visible missing
    refine ⟨after, ?_, current, changed⟩
    exact Step.bind_of_ok (onHandle_eq_ok_iff.2 ⟨handle, after, connected, ran, rfl⟩)
  removeDatabase_current :=
    Step.bind_of_error (onHandle_of_refused connected (separates.removeDatabase_inUse handle))
  removeDatabase_missing name askable other missing :=
    Step.bind_of_error
      (onHandle_of_refused connected (separates.removeDatabase_missing askable other missing))
  removeDatabase_ok name askable other found := by
    obtain ⟨after, ran, current, changed⟩ := separates.removeDatabase_ok askable other found
    refine ⟨after, ?_, current, changed⟩
    exact Step.bind_of_ok (onHandle_eq_ok_iff.2 ⟨handle, after, connected, ran, rfl⟩)
  selectDatabase_missing name askable missing :=
    Step.bind_of_error
      (onHandle_of_refused connected (separates.selectDatabase_missing askable missing))
  selectDatabase_ok name askable found := by
    obtain ⟨held, ran, current, unchanged⟩ := separates.selectDatabase_ok askable found
    have presentHeld : view.IsPresent held := by
      rwa [Backend.View.IsPresent, current, unchanged]
    obtain ⟨info, after, selected, near, same⟩ :=
      selectDatabase_eq_ok separates connected ran presentHeld
    refine ⟨info, after, selected, near.current.trans current, unchanged ▸ same, ?_⟩
    intro other different
    rw [near.others other (current.symm ▸ different), unchanged]

end

end Session

end KeyConsole
