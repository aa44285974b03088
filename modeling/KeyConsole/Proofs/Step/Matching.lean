import KeyConsole.Error

/-!
# Steps that end alike

Two steps on different states end alike if from related states both succeed with
related results or both refuse for related causes, and the states that they reach
are related again.  Neither may break down.  What holds of all parts of two
programs of one shape holds of the programs.
-/

namespace KeyConsole.Step

variable {ε δ σ τ α β γ ζ : Type} {states : σ → τ → Prop} {causes : ε → δ → Prop}
  {results : α → β → Prop}

/-- Both ends are answers, and of the same sort. -/
inductive EndAlike (states : σ → τ → Prop) (causes : ε → δ → Prop) (results : α → β → Prop) :
    EStateM.Result (Halt ε) σ α → EStateM.Result (Halt δ) τ β → Prop where
  | ok {result : α} {other : β} {after : σ} {afterToo : τ} (related : results result other)
      (reached : states after afterToo) :
      EndAlike states causes results (.ok result after) (.ok other afterToo)
  | refused {cause : ε} {other : δ} {after : σ} {afterToo : τ} (related : causes cause other)
      (reached : states after afterToo) :
      EndAlike states causes results (.error (.refused cause) after)
        (.error (.refused other) afterToo)

theorem EndAlike.finalState {first : EStateM.Result (Halt ε) σ α}
    {second : EStateM.Result (Halt δ) τ β} (alike : EndAlike states causes results first second) :
    states (finalState first) (finalState second) := by
  cases alike with
  | ok _ reached => exact reached
  | refused _ reached => exact reached

/-- From related states two steps end alike. -/
def Matches (states : σ → τ → Prop) (causes : ε → δ → Prop) (results : α → β → Prop)
    (first : Step ε σ α) (second : Step δ τ β) : Prop :=
  ∀ before beforeToo, states before beforeToo →
    EndAlike states causes results (first before) (second beforeToo)

theorem matches_pure {result : α} {other : β} (related : results result other) :
    Matches states causes results (pure result) (pure other) :=
  fun _ _ start => .ok related start

theorem matches_refuse {cause : ε} {other : δ} (related : causes cause other) :
    Matches states causes results (refuse cause) (refuse other) :=
  fun _ _ start => .refused related start

/-- Two steps in turn end alike if each of them does. -/
theorem Matches.bind {first : Step ε σ α} {second : Step δ τ β} {next : α → Step ε σ γ}
    {nextToo : β → Step δ τ ζ} {resultsToo : γ → ζ → Prop}
    (alike : Matches states causes results first second)
    (alikeNext : ∀ result other, results result other →
      Matches states causes resultsToo (next result) (nextToo other)) :
    Matches states causes resultsToo (first >>= next) (second >>= nextToo) := by
  intro before beforeToo start
  have ended := alike before beforeToo start
  change EndAlike states causes resultsToo (EStateM.bind first next before)
    (EStateM.bind second nextToo beforeToo)
  unfold EStateM.bind
  generalize first before = left at ended ⊢
  generalize second beforeToo = right at ended ⊢
  cases ended with
  | ok related reached => exact alikeNext _ _ related _ _ reached
  | refused related reached => exact .refused related reached

end KeyConsole.Step
