import KeyConsole.Error

/-!
# What steps keep and what they ignore

A step keeps a property of states if the state that it reaches has the property
whenever the state that it begins in has it, no matter whether the step succeeds,
refuses or breaks down.  What all parts of a step keep, the whole step keeps.  A
step respects a change of states if the change can as well be made behind the step:
it does not look at what is changed, and does not undo it.
-/

namespace KeyConsole.Step

variable {ε σ α β : Type} {property : σ → Prop}

/-- The state that a step reaches has a property if the state before had it. -/
def Keeps (property : σ → Prop) (step : Step ε σ α) : Prop :=
  ∀ state, property state → property (finalState (step state))

theorem finalState_bind (first : Step ε σ α) (next : α → Step ε σ β) (state : σ) :
    finalState ((first >>= next) state)
      = match first state with
        | .ok result between => finalState (next result between)
        | .error _ between => between := by
  change finalState (EStateM.bind first next state) = _
  unfold EStateM.bind
  cases first state <;> rfl

/-- A step that goes on without a change reaches what its first part reaches. -/
theorem finalState_bind_of_same {first : Step ε σ α} {next : α → Step ε σ β}
    (same : ∀ result between, finalState (next result between) = between) (state : σ) :
    finalState ((first >>= next) state) = finalState (first state) := by
  rw [finalState_bind]
  cases first state with
  | ok result between => exact same result between
  | error halt between => rfl

theorem bind_of_ok {first : Step ε σ α} {next : α → Step ε σ β} {state between : σ} {result : α}
    (ran : first state = .ok result between) : (first >>= next) state = next result between := by
  change EStateM.bind first next state = _
  rw [EStateM.bind, ran]

theorem map_of_ok {first : Step ε σ α} {state between : σ} {result : α} (change : α → β)
    (ran : first state = .ok result between) :
    (change <$> first) state = .ok (change result) between := by
  change EStateM.map change first state = _
  rw [EStateM.map, ran]

theorem map_of_error {first : Step ε σ α} {state after : σ} {halt : Halt ε} (change : α → β)
    (halted : first state = .error halt after) :
    (change <$> first) state = .error halt after := by
  change EStateM.map change first state = _
  rw [EStateM.map, halted]

theorem bind_of_error {first : Step ε σ α} {next : α → Step ε σ β} {state after : σ}
    {halt : Halt ε} (halted : first state = .error halt after) :
    (first >>= next) state = .error halt after := by
  change EStateM.bind first next state = _
  rw [EStateM.bind, halted]

theorem keeps_pure (result : α) : Keeps property (pure result : Step ε σ α) :=
  fun _ holds => holds

theorem keeps_refuse (cause : ε) : Keeps property (refuse cause : Step ε σ α) :=
  fun _ holds => holds

theorem keeps_ofExcept (result : Except ε α) : Keeps property (ofExcept result : Step ε σ α) := by
  cases result with
  | ok result => exact keeps_pure result
  | error cause => exact keeps_refuse cause

/-- Two steps in turn keep what each of them keeps. -/
theorem Keeps.bind {first : Step ε σ α} {next : α → Step ε σ β} (kept : Keeps property first)
    (keptNext : ∀ result, Keeps property (next result)) : Keeps property (first >>= next) := by
  intro state holds
  have between := kept state holds
  rw [finalState_bind]
  cases ran : first state with
  | ok result after =>
    rw [ran] at between
    exact keptNext result after between
  | error halt after =>
    rw [ran] at between
    exact between

theorem Keeps.ite {condition : Prop} [Decidable condition] {first second : Step ε σ α}
    (kept : condition → Keeps property first) (keptElse : ¬condition → Keeps property second) :
    Keeps property (if condition then first else second) := by
  split
  · next holds => exact kept holds
  · next fails => exact keptElse fails

/-! ## Changes that a step respects -/

/-- Change the state in which a step has ended. -/
def mapState (change : σ → σ) : EStateM.Result (Halt ε) σ α → EStateM.Result (Halt ε) σ α
  | .ok result state => .ok result (change state)
  | .error halt state => .error halt (change state)

/-- A step from a changed state ends as the step from the state itself, with the
change made afterwards. -/
def Respects (change : σ → σ) (step : Step ε σ α) : Prop :=
  ∀ state, step (change state) = mapState change (step state)

variable {change : σ → σ}

theorem finalState_mapState (ended : EStateM.Result (Halt ε) σ α) :
    finalState (mapState change ended) = change (finalState ended) := by
  cases ended <;> rfl

theorem Respects.finalState_eq {step : Step ε σ α} (respects : Respects change step) (state : σ) :
    finalState (step (change state)) = change (finalState (step state)) := by
  rw [respects, finalState_mapState]

theorem respects_pure (result : α) : Respects change (pure result : Step ε σ α) :=
  fun _ => rfl

theorem respects_refuse (cause : ε) : Respects change (refuse cause : Step ε σ α) :=
  fun _ => rfl

theorem respects_ofExcept (result : Except ε α) :
    Respects change (ofExcept result : Step ε σ α) := by
  cases result with
  | ok result => exact respects_pure result
  | error cause => exact respects_refuse cause

/-- Two steps in turn respect what each of them respects. -/
theorem Respects.bind {first : Step ε σ α} {next : α → Step ε σ β}
    (respects : Respects change first) (respectsNext : ∀ result, Respects change (next result)) :
    Respects change (first >>= next) := by
  intro state
  have changed := respects state
  cases ran : first state with
  | ok result between =>
    rw [ran] at changed
    rw [bind_of_ok changed, bind_of_ok ran]
    exact respectsNext result between
  | error halt after =>
    rw [ran] at changed
    rw [bind_of_error changed, bind_of_error ran]
    rfl

theorem Respects.ite {condition : Prop} [Decidable condition] {first second : Step ε σ α}
    (respects : condition → Respects change first)
    (respectsElse : ¬condition → Respects change second) :
    Respects change (if condition then first else second) := by
  split
  · next holds => exact respects holds
  · next fails => exact respectsElse fails

end KeyConsole.Step
