import KeyConsole.Proofs.Session.Operation

/-!
# Operations that spare an item

Which database is current decides whether an action on a key is one on a given
item.  An operation spares the item if none of the actions that it may run
touches it, so whatever a backend guarantees for single actions holds for whole
operations.
-/

namespace KeyConsole

variable {B : Backend}

/-- An action does not touch the item of a key in a database while `current` is
the current one. -/
def Primitive.Spares (database : String) (key : Key) (current : String) : Primitive B → Prop
  | put other _ | remove other | expire other _ => current = database → other ≠ key
  | clear => current ≠ database
  | removeDatabase name => name ≠ database
  | _ => True

namespace Operation

/-- An operation does not touch the item of a key in a database while `current` is
the current one.  A key may be given to its own item. -/
def Spares (database : String) (key : Key) (current : String) : Operation B → Prop
  | set item => current = database → item.key ≠ key
  | delete wanted => current = database → key ∉ wanted
  | expire other _ => current = database → other ≠ key
  | rename other newKey => current = database → (other = key ↔ newKey = key)
  | flush => current ≠ database
  | removeDatabase name => name ≠ database
  | native primitive => primitive.Spares database key current
  | _ => True

variable {database current : String} {key : Key} {operation : Operation B}
  {primitive : Primitive B}

/-- An operation that spares an item runs only actions that spare it. -/
theorem spares_of_mayRun (spares : operation.Spares database key current)
    (mayRun : operation.MayRun primitive) : primitive.Spares database key current := by
  cases operation with
  | connect | disconnect | quit | reopen | setInterrupted | currentDatabase => cases mayRun
  | set item =>
    cases mayRun
    exact spares
  | delete wanted =>
    rcases mayRun with ⟨other, mem, rfl⟩
    rintro here rfl
    exact spares here mem
  | rename other newKey =>
    rcases mayRun with rfl | ⟨different, ⟨bytes, rfl⟩ | rfl⟩
    · exact trivial
    · rintro here rfl
      exact different ((spares here).2 rfl)
    · rintro here rfl
      exact different ((spares here).1 rfl).symm
  | selectDatabase name => obtain rfl | rfl := mayRun <;> exact trivial
  | flush | removeDatabase | expire | native =>
    cases mayRun
    exact spares
  | _ =>
    cases mayRun
    exact trivial

/-- An operation that selects a database does nothing else but count it. -/
theorem eq_of_selects {name : String} (selects : operation.MayRun (.selectDatabase name))
    (mayRun : operation.MayRun primitive) :
    (∃ name, primitive = .selectDatabase name) ∨ primitive = .count := by
  cases operation with
  | selectDatabase other =>
    rcases mayRun with rfl | rfl
    · exact Or.inl ⟨other, rfl⟩
    · exact Or.inr rfl
  | native meant =>
    cases selects
    exact Or.inl ⟨name, mayRun⟩
  | rename other newKey =>
    rcases selects with impossible | ⟨_, ⟨_, impossible⟩ | impossible⟩ <;> cases impossible
  | delete wanted =>
    rcases selects with ⟨_, _, impossible⟩
    cases impossible
  | _ => cases selects

end Operation

/-- A property of handles that no action loses at an instant as long as it is allowed while
some database is current.  Every database may be counted. -/
structure CustodyAt (B : Backend) (now : Instant) (allowed : String → Primitive B → Prop)
    (stored : B.Handle → Prop) : Prop where
  /-- Only a selection changes which database is current. -/
  kept : ∀ {primitive : Primitive B} {current : String},
    (∀ name, primitive ≠ .selectDatabase name) → allowed current primitive →
      primitive.KeepsAt now fun handle => stored handle ∧ B.currentDatabase handle = current
  count : ∀ current, allowed current .count
  select : ∀ name, (Primitive.selectDatabase name).KeepsAt now stored

/-- An operation all of whose actions are allowed leaves what is stored in custody. -/
theorem CustodyAt.after {now : Instant} {allowed : String → Primitive B → Prop}
    {stored : B.Handle → Prop} (custody : CustodyAt B now allowed stored)
    {operation : Operation B} (inside : ¬operation.IsLifecycle) {session : Session B}
    {handle : B.Handle} (connected : session.handle = some handle)
    (allows : ∀ primitive, operation.MayRun primitive →
      allowed (B.currentDatabase handle) primitive)
    (holds : stored handle) :
    (operation.after now session).Stands session.config session.host
      fun handle => ∃ held, handle = some held ∧ stored held := by
  by_cases selects : ∃ name, operation.MayRun (.selectDatabase name)
  · rcases selects with ⟨name, selects⟩
    refine Operation.holds_after inside now (fun primitive mayRun => ?_) connected holds
    rcases Operation.eq_of_selects selects mayRun with ⟨other, rfl⟩ | rfl
    · exact custody.select other
    · intro held holds
      have other (name : String) : (Primitive.count : Primitive B) ≠ .selectDatabase name :=
        fun impossible => by cases impossible
      exact (custody.kept other (custody.count _) held ⟨holds, rfl⟩).1
  · have kept (primitive : Primitive B) (mayRun : operation.MayRun primitive) :
        primitive.KeepsAt now fun held =>
          stored held ∧ B.currentDatabase held = B.currentDatabase handle := by
      apply custody.kept
      · rintro name rfl
        exact selects ⟨name, mayRun⟩
      · exact allows primitive mayRun
    have stands := Operation.holds_after inside now kept connected ⟨holds, rfl⟩
    rcases stands.handle with ⟨held, isHeld, holds, _⟩
    exact ⟨stands.config, stands.host, held, isHeld, holds⟩

/-- A property of handles that no action loses as long as it spares the item of a key
in a database. -/
structure Custody (B : Backend) (database : String) (key : Key) (stored : B.Handle → Prop) :
    Prop where
  /-- Only a selection changes which database is current. -/
  kept : ∀ {primitive : Primitive B} {current : String},
    (∀ name, primitive ≠ .selectDatabase name) → primitive.Spares database key current →
      primitive.Keeps fun handle => stored handle ∧ B.currentDatabase handle = current
  select : ∀ name, (Primitive.selectDatabase name).Keeps stored

theorem Custody.at {database : String} {key : Key} {stored : B.Handle → Prop}
    (custody : Custody B database key stored) (now : Instant) :
    CustodyAt B now (fun current => Primitive.Spares database key current) stored where
  kept other spares := custody.kept other spares now
  count _ := trivial
  select name := custody.select name now

/-- An operation that spares the item leaves it in custody. -/
theorem Custody.after {database : String} {key : Key} {stored : B.Handle → Prop}
    (custody : Custody B database key stored) {operation : Operation B}
    (inside : ¬operation.IsLifecycle) (now : Instant) {session : Session B} {handle : B.Handle}
    (connected : session.handle = some handle)
    (spares : operation.Spares database key (B.currentDatabase handle)) (holds : stored handle) :
    (operation.after now session).Stands session.config session.host
      fun handle => ∃ held, handle = some held ∧ stored held :=
  (custody.at now).after inside connected (fun _ => Operation.spares_of_mayRun spares) holds

end KeyConsole
