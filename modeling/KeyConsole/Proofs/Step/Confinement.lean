import KeyConsole.Proofs.Step

/-!
# Confined steps

A confinement says of two states what a step from one to the other may have changed: the
second is near the first if everything out of reach is as it was, and it looks the same
if nothing has changed that can be seen.  A step that reads leaves the same look however
it ends; a step that writes always succeeds; a step that halts at all is confined if it
leaves the same look then.
-/

namespace KeyConsole.Step

/-- What a step may change of valid states. -/
structure Confinement (σ : Type) where
  valid : σ → Prop
  /-- Everything out of reach is as it was. -/
  near : σ → σ → Prop
  /-- Nothing that can be seen has changed. -/
  same : σ → σ → Prop
  valid_of_near : ∀ {before after}, near before after → valid after
  near_of_same : ∀ {before after}, same before after → near before after
  same_refl : ∀ {state}, valid state → same state state
  near_trans : ∀ {first second third}, near first second → near second third → near first third
  same_trans : ∀ {first second third}, same first second → same second third → same first third

namespace Confinement

variable {ε σ τ α β : Type} (confinement : Confinement σ)

/-- What a step may change of states that have a confined part. -/
def comap (part : τ → σ) : Confinement τ where
  valid state := confinement.valid (part state)
  near before after := confinement.near (part before) (part after)
  same before after := confinement.same (part before) (part after)
  valid_of_near := confinement.valid_of_near
  near_of_same := confinement.near_of_same
  same_refl := confinement.same_refl
  near_trans := confinement.near_trans
  same_trans := confinement.same_trans

/-- A step leaves the same look, however it ends. -/
def Reads (step : Step ε σ α) : Prop :=
  ∀ state, confinement.valid state → confinement.same state (finalState (step state))

/-- A step succeeds and stays near. -/
def Writes (step : Step ε σ α) : Prop :=
  ∀ state, confinement.valid state →
    ∃ result after, step state = .ok result after ∧ confinement.near state after

/-- A step stays near, and leaves the same look if it halts. -/
def Confines (step : Step ε σ α) : Prop :=
  ∀ state, confinement.valid state →
    confinement.near state (finalState (step state)) ∧
      ∀ halt after, step state = .error halt after → confinement.same state after

/-- A step leaves the same look if it halts, and may do anything if it succeeds. -/
def HaltsUnseen (step : Step ε σ α) : Prop :=
  ∀ state, confinement.valid state →
    ∀ halt after, step state = .error halt after → confinement.same state after

variable {confinement} {step first : Step ε σ α} {next : α → Step ε σ β}

theorem Reads.confines (reads : confinement.Reads step) : confinement.Confines step := by
  intro state valid
  have same := reads state valid
  refine ⟨confinement.near_of_same same, ?_⟩
  intro halt after halted
  rwa [halted] at same

theorem Writes.confines (writes : confinement.Writes step) : confinement.Confines step := by
  intro state valid
  obtain ⟨result, after, ran, near⟩ := writes state valid
  rw [ran]
  refine ⟨near, ?_⟩
  intro halt after halted
  cases halted

theorem Confines.haltsUnseen (confines : confinement.Confines step) :
    confinement.HaltsUnseen step :=
  fun state valid => (confines state valid).2

/-- What leaves every state as it is reads. -/
theorem reads_of_finalState_eq (kept : ∀ state, finalState (step state) = state) :
    confinement.Reads step := by
  intro state valid
  rw [kept]
  exact confinement.same_refl valid

theorem reads_pure (result : α) : confinement.Reads (pure result : Step ε σ α) :=
  fun _ valid => confinement.same_refl valid

theorem reads_refuse (cause : ε) : confinement.Reads (refuse cause : Step ε σ α) :=
  fun _ valid => confinement.same_refl valid

theorem reads_ofExcept (checked : Except ε α) :
    confinement.Reads (ofExcept checked : Step ε σ α) := by
  cases checked with
  | ok result => exact reads_pure result
  | error cause => exact reads_refuse cause

theorem Reads.bind (reads : confinement.Reads first)
    (readsNext : ∀ result, confinement.Reads (next result)) :
    confinement.Reads (first >>= next) := by
  intro state valid
  have same := reads state valid
  rw [finalState_bind]
  cases ran : first state with
  | ok result between =>
    rw [ran] at same
    have still := confinement.valid_of_near (confinement.near_of_same same)
    exact confinement.same_trans same (readsNext result between still)
  | error halt after =>
    rw [ran] at same
    exact same

theorem Writes.bind (writes : confinement.Writes first)
    (writesNext : ∀ result, confinement.Writes (next result)) :
    confinement.Writes (first >>= next) := by
  intro state valid
  obtain ⟨result, between, ran, near⟩ := writes state valid
  obtain ⟨last, after, ranNext, nearNext⟩ :=
    writesNext result between (confinement.valid_of_near near)
  exact ⟨last, after, (bind_of_ok ran).trans ranNext, confinement.near_trans near nearNext⟩

theorem writes_pure (result : α) : confinement.Writes (pure result : Step ε σ α) :=
  fun state valid =>
    ⟨result, state, rfl, confinement.near_of_same (confinement.same_refl valid)⟩

/-- Reading first does not let a step loose. -/
theorem Reads.bind_confines (reads : confinement.Reads first)
    (confinesNext : ∀ result, confinement.Confines (next result)) :
    confinement.Confines (first >>= next) := by
  intro state valid
  have same := reads state valid
  cases ran : first state with
  | ok result between =>
    rw [ran] at same
    have near := confinement.near_of_same same
    obtain ⟨nearNext, sameNext⟩ :=
      confinesNext result between (confinement.valid_of_near near)
    rw [bind_of_ok ran]
    exact ⟨confinement.near_trans near nearNext, fun halt after halted =>
      confinement.same_trans same (sameNext halt after halted)⟩
  | error halt after =>
    rw [ran] at same
    rw [bind_of_error ran]
    refine ⟨confinement.near_of_same same, ?_⟩
    intro _ _ halted
    cases halted
    exact same

/-- Reading first does not show what halts unseen. -/
theorem Reads.bind_haltsUnseen (reads : confinement.Reads first)
    (unseenNext : ∀ result, confinement.HaltsUnseen (next result)) :
    confinement.HaltsUnseen (first >>= next) := by
  intro state valid halt after halted
  have same := reads state valid
  rcases bind_eq_error_iff.1 halted with halted | ⟨result, between, ran, haltedNext⟩
  · rwa [halted] at same
  · rw [ran] at same
    have still := confinement.valid_of_near (confinement.near_of_same same)
    exact confinement.same_trans same (unseenNext result between still halt after haltedNext)

/-- A step that is followed by nothing that can halt only halts itself. -/
theorem HaltsUnseen.bind_of_succeeds (unseen : confinement.HaltsUnseen first)
    (succeeds : ∀ result state, ∃ last after, next result state = .ok last after) :
    confinement.HaltsUnseen (first >>= next) := by
  intro state valid halt after halted
  rcases bind_eq_error_iff.1 halted with halted | ⟨result, between, _, haltedNext⟩
  · exact unseen state valid halt after halted
  · obtain ⟨last, afterLast, ran⟩ := succeeds result between
    cases ran.symm.trans haltedNext

theorem Reads.ite {condition : Prop} [Decidable condition] {second : Step ε σ α}
    (reads : confinement.Reads first) (readsElse : confinement.Reads second) :
    confinement.Reads (if condition then first else second) := by
  split
  · exact reads
  · exact readsElse

theorem Confines.ite {condition : Prop} [Decidable condition] {second : Step ε σ α}
    (confines : confinement.Confines first) (confinesElse : confinement.Confines second) :
    confinement.Confines (if condition then first else second) := by
  split
  · exact confines
  · exact confinesElse

end Confinement

end KeyConsole.Step
