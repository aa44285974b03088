import KeyConsole.Proofs.Step

/-!
# Steps that break down

A step that succeeds or refuses has answered; otherwise it has broken down.  Two steps in
turn break down if the first does, or the second behind it, so what is put together from
steps that always answer always answers.
-/

namespace KeyConsole.Step

variable {ε σ α β : Type}

/-- A step has ended without an answer. -/
def BreaksDown (ended : EStateM.Result (Halt ε) σ α) : Prop :=
  answer? ended = none

theorem breaksDown_iff {ended : EStateM.Result (Halt ε) σ α} :
    BreaksDown ended ↔ ∃ after, ended = .error .broken after := by
  cases ended with
  | ok result after => simp [BreaksDown, answer?]
  | error halt after => cases halt <;> simp [BreaksDown, answer?]

@[simp]
theorem not_breaksDown_ok {result : α} {after : σ} :
    ¬BreaksDown (.ok result after : EStateM.Result (Halt ε) σ α) :=
  nofun

@[simp]
theorem not_breaksDown_refused {cause : ε} {after : σ} :
    ¬BreaksDown (.error (.refused cause) after : EStateM.Result (Halt ε) σ α) :=
  nofun

@[simp]
theorem breaksDown_broken {after : σ} :
    BreaksDown (.error .broken after : EStateM.Result (Halt ε) σ α) :=
  rfl

theorem breaksDown_bind_iff {first : Step ε σ α} {next : α → Step ε σ β} {state : σ} :
    BreaksDown ((first >>= next) state) ↔
      BreaksDown (first state) ∨
        ∃ result between, first state = .ok result between ∧ BreaksDown (next result between) := by
  cases ran : first state with
  | ok result between => simp [bind_of_ok ran, and_assoc]
  | error halt after => cases halt <;> simp [bind_of_error ran]

/-! ## Steps that always answer -/

/-- A step answers, whatever state it begins in. -/
def Answers (step : Step ε σ α) : Prop :=
  ∀ state, ¬BreaksDown (step state)

theorem answers_pure (result : α) : Answers (pure result : Step ε σ α) :=
  fun _ => not_breaksDown_ok

theorem answers_refuse (cause : ε) : Answers (refuse cause : Step ε σ α) :=
  fun _ => not_breaksDown_refused

theorem answers_modify (change : σ → σ) : Answers (modify change : Step ε σ PUnit) :=
  fun _ => not_breaksDown_ok

theorem answers_ofExcept (checked : Except ε α) : Answers (ofExcept checked : Step ε σ α) := by
  cases checked with
  | ok result => exact answers_pure result
  | error cause => exact answers_refuse cause

variable {first second : Step ε σ α} {next : α → Step ε σ β}

theorem Answers.bind (answers : Answers first) (answersNext : ∀ result, Answers (next result)) :
    Answers (first >>= next) := by
  intro state broken
  rcases breaksDown_bind_iff.1 broken with broken | ⟨result, between, _, broken⟩
  · exact answers state broken
  · exact answersNext result between broken

theorem Answers.ite {condition : Prop} [Decidable condition] (answers : Answers first)
    (answersElse : Answers second) : Answers (if condition then first else second) := by
  split
  · exact answers
  · exact answersElse

/-- What is followed by a step that always answers breaks down only by itself. -/
theorem breaksDown_bind_of_answers {state : σ} (answers : ∀ result, Answers (next result)) :
    BreaksDown ((first >>= next) state) ↔ BreaksDown (first state) := by
  rw [breaksDown_bind_iff, or_iff_left]
  rintro ⟨result, between, _, broken⟩
  exact answers result between broken

/-! ## Steps without their results -/

/-- A step whose result is dropped. -/
def discard (step : Step ε σ α) : Step ε σ Unit := fun state =>
  match step state with
  | .ok _ after => .ok () after
  | .error halt after => .error halt after

@[simp]
theorem breaksDown_discard_iff {step : Step ε σ α} {state : σ} :
    BreaksDown (discard step state) ↔ BreaksDown (step state) := by
  rw [discard]
  cases step state with
  | ok result after => simp
  | error halt after => cases halt <;> simp

theorem answers_discard_iff : Answers (discard first) ↔ Answers first :=
  ⟨fun answers state broken => answers state (breaksDown_discard_iff.2 broken),
    fun answers state broken => answers state (breaksDown_discard_iff.1 broken)⟩

@[simp]
theorem discard_discard (step : Step ε σ α) : discard (discard step) = discard step := by
  funext state
  rw [discard, discard]
  cases step state <;> rfl

theorem discard_eq_ok_iff {step : Step ε σ α} {state after : σ} :
    discard step state = .ok () after ↔ ∃ result, step state = .ok result after := by
  rw [discard]
  cases step state <;> simp

/-- Dropping the result hides nothing of a step that halts. -/
theorem discard_eq_error_iff {step : Step ε σ α} {state after : σ} {halt : Halt ε} :
    discard step state = .error halt after ↔ step state = .error halt after := by
  rw [discard]
  cases step state <;> simp

end KeyConsole.Step
