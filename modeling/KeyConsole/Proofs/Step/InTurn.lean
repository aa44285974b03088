import KeyConsole.Proofs.Step

/-!
# Steps in turn

A list of things is worked off one by one until a step halts.  The results are those
of the steps that came to their end, so there are as many of them as things were
worked off.  Whatever happens behind a place in the list, the steps in front of it
run as if the list ended there.
-/

namespace KeyConsole.Step

variable {ε σ α β ι κ : Type}

/-- Run a step for each thing until one halts; `done` is the number of the first.  The
results of the steps that came to their end, and how the last of them ended. -/
def inTurn (run : Nat → ι → Step ε σ β) (done : Nat) :
    List ι → σ → List β × EStateM.Result (Halt ε) σ Unit
  | [], state => ([], .ok () state)
  | thing :: things, state =>
    match run done thing state with
    | .ok result between =>
      (result :: (inTurn run (done + 1) things between).1,
        (inTurn run (done + 1) things between).2)
    | .error halt after => ([], .error halt after)

variable {run : Nat → ι → Step ε σ β} {done : Nat} {thing : ι} {things : List ι}
  {state between : σ}

theorem inTurn_cons_of_ok {result : β} {rest : List β} {ended : EStateM.Result (Halt ε) σ Unit}
    (ran : run done thing state = .ok result between)
    (ranRest : inTurn run (done + 1) things between = (rest, ended)) :
    inTurn run done (thing :: things) state = (result :: rest, ended) := by
  rw [inTurn, ran]
  dsimp only
  rw [ranRest]

theorem inTurn_cons_of_error {halt : Halt ε} (halted : run done thing state = .error halt between) :
    inTurn run done (thing :: things) state = ([], .error halt between) := by
  rw [inTurn, halted]

variable {results : List β} {after : σ}

/-- There is a result for each thing if no step halts. -/
theorem length_inTurn_of_ok (ran : inTurn run done things state = (results, .ok () after)) :
    results.length = things.length := by
  induction things generalizing done state results with
  | nil =>
    cases ran
    rfl
  | cons thing things ih =>
    cases ranFirst : run done thing state with
    | ok result between =>
      cases ranRest : inTurn run (done + 1) things between with | mk rest ended =>
      cases (inTurn_cons_of_ok ranFirst ranRest).symm.trans ran
      exact congrArg Nat.succ (ih ranRest)
    | error halt between => cases (inTurn_cons_of_error ranFirst).symm.trans ran

/-- There are fewer results than things if a step halts. -/
theorem length_inTurn_of_error {halt : Halt ε}
    (ran : inTurn run done things state = (results, .error halt after)) :
    results.length < things.length := by
  induction things generalizing done state results with
  | nil => cases ran
  | cons thing things ih =>
    cases ranFirst : run done thing state with
    | ok result between =>
      cases ranRest : inTurn run (done + 1) things between with | mk rest ended =>
      cases (inTurn_cons_of_ok ranFirst ranRest).symm.trans ran
      exact Nat.succ_lt_succ (ih ranRest)
    | error halt between =>
      cases (inTurn_cons_of_error ranFirst).symm.trans ran
      exact Nat.succ_pos _

/-- The steps in front of a place that is reached all come to their end. -/
theorem inTurn_take {count : Nat} (reached : count ≤ (inTurn run done things state).1.length) :
    ∃ between, inTurn run done (things.take count) state
      = ((inTurn run done things state).1.take count, .ok () between) := by
  induction things generalizing done state count with
  | nil => exact ⟨state, by simp [inTurn]⟩
  | cons thing things ih =>
    cases count with
    | zero => exact ⟨state, rfl⟩
    | succ count =>
      cases ran : run done thing state with
      | ok result between =>
        rw [inTurn_cons_of_ok ran rfl] at reached ⊢
        obtain ⟨last, taken⟩ := ih (Nat.le_of_succ_le_succ reached)
        refine ⟨last, ?_⟩
        rw [List.take_succ_cons, inTurn_cons_of_ok ran taken]
        rfl
      | error halt between =>
        rw [inTurn_cons_of_error ran] at reached
        cases reached

/-- The steps in turn halt when all in front of a place come to their end and the one at
that place halts. -/
theorem inTurn_eq_error_iff {halt : Halt ε} :
    inTurn run done things state = (results, .error halt after) ↔
      ∃ first thing rest between, things = first ++ thing :: rest ∧
        inTurn run done first state = (results, .ok () between) ∧
          run (done + first.length) thing between = .error halt after := by
  constructor
  · intro ran
    induction things generalizing done state results with
    | nil => cases ran
    | cons thing things ih =>
      cases ranFirst : run done thing state with
      | ok result between =>
        cases ranRest : inTurn run (done + 1) things between with | mk rest ended =>
        cases (inTurn_cons_of_ok ranFirst ranRest).symm.trans ran
        obtain ⟨first, failed, last, reached, rfl, ranRest, halted⟩ := ih ranRest
        refine ⟨thing :: first, failed, last, reached, rfl, inTurn_cons_of_ok ranFirst ranRest, ?_⟩
        rwa [List.length_cons, Nat.add_comm first.length, ← Nat.add_assoc]
      | error other between =>
        cases (inTurn_cons_of_error ranFirst).symm.trans ran
        exact ⟨[], thing, things, state, rfl, rfl, ranFirst⟩
  · rintro ⟨first, failed, rest, reached, rfl, ran, halted⟩
    induction first generalizing done state results with
    | nil =>
      cases ran
      exact inTurn_cons_of_error halted
    | cons thing first ih =>
      cases ranFirst : run done thing state with
      | ok result between =>
        cases ranRest : inTurn run (done + 1) first between with | mk others ended =>
        cases (inTurn_cons_of_ok ranFirst ranRest).symm.trans ran
        refine inTurn_cons_of_ok ranFirst (ih ranRest ?_)
        rwa [List.length_cons, Nat.add_comm first.length, ← Nat.add_assoc] at halted
      | error other between => cases (inTurn_cons_of_error ranFirst).symm.trans ran

/-- The steps in turn keep what each of them keeps. -/
theorem inTurn_keeps {property : σ → Prop} (kept : ∀ n thing, Keeps property (run n thing))
    (holds : property state) : property (finalState (inTurn run done things state).2) := by
  induction things generalizing done state with
  | nil => exact holds
  | cons thing things ih =>
    have first := kept done thing state holds
    cases ran : run done thing state with
    | ok result between =>
      rw [ran] at first
      rw [inTurn_cons_of_ok ran rfl]
      exact ih first
    | error halt between =>
      rw [ran] at first
      rw [inTurn_cons_of_error ran]
      exact first

/-- If each step respects a change of states, so do the steps in turn. -/
theorem inTurn_respects {change : σ → σ} (respects : ∀ n thing, Respects change (run n thing))
    (done : Nat) (things : List ι) (state : σ) :
    inTurn run done things (change state)
      = ((inTurn run done things state).1, mapState change (inTurn run done things state).2) := by
  induction things generalizing done state with
  | nil => rfl
  | cons thing things ih =>
    have changed := respects done thing state
    cases ran : run done thing state with
    | ok result between =>
      rw [ran] at changed
      rw [inTurn_cons_of_ok changed (ih _ _), inTurn_cons_of_ok ran rfl]
    | error halt between =>
      rw [ran] at changed
      rw [inTurn_cons_of_error changed, inTurn_cons_of_error ran]
      rfl

/-- If each step does what another one does and turns its result into one of its own, so
do the steps in turn. -/
theorem inTurn_map {α : Type} {other : Nat → κ → Step ε σ α} {named : κ → ι} {turned : κ → α → β}
    {things : List κ} (same : ∀ n, ∀ thing ∈ things,
      run n (named thing) = turned thing <$> other n thing) (done : Nat) (state : σ) :
    inTurn run done (things.map named) state
      = (List.zipWith turned things (inTurn other done things state).1,
        (inTurn other done things state).2) := by
  induction things generalizing done state with
  | nil => rfl
  | cons thing things ih =>
    obtain ⟨sameFirst, sameRest⟩ :
        (∀ n, run n (named thing) = turned thing <$> other n thing) ∧
          ∀ n, ∀ thing ∈ things, run n (named thing) = turned thing <$> other n thing :=
      ⟨fun n => same n thing List.mem_cons_self,
        fun n other mem => same n other (List.mem_cons_of_mem _ mem)⟩
    have first := congrFun (sameFirst done) state
    rw [List.map_cons]
    cases ran : other done thing state with
    | ok result between =>
      have ranNamed : run done (named thing) state = .ok (turned thing result) between := by
        rw [first]
        change EStateM.map _ _ _ = _
        rw [EStateM.map, ran]
      rw [inTurn_cons_of_ok ranNamed (ih sameRest _ _), inTurn_cons_of_ok ran rfl]
      rfl
    | error halt between =>
      have ranNamed : run done (named thing) state = .error halt between := by
        rw [first]
        change EStateM.map _ _ _ = _
        rw [EStateM.map, ran]
      rw [inTurn_cons_of_error ranNamed, inTurn_cons_of_error ran]
      rfl

end KeyConsole.Step
