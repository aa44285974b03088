import KeyConsole.Proofs.Driver.Script
import KeyConsole.Proofs.Driver.Turns
import KeyConsole.Proofs.Session.Outcome

/-!
# Requests that break down

A request that is no script answers if the operations do that it may ask for.  A script
breaks down with the first line that does, if the lines in front of it come to their end
and the flag is not raised before.
-/

namespace KeyConsole

variable {B : Backend}

namespace Running

variable {α : Type} {clock : Nat → Instant} {raises : Nat → Bool}

theorem answers_inSession {operation : Session.Action B α} (answers : Step.Answers operation) :
    Step.Answers (inSession operation) := by
  intro running broken
  apply answers running.session
  rw [inSession] at broken
  cases ended : operation running.session with
  | ok result session =>
    rw [ended] at broken
    cases broken
  | error halt session =>
    rw [ended] at broken
    cases halt with
    | refused cause => cases broken
    | broken => exact Step.breaksDown_broken

/-- A request that is no script answers if every operation does that it may ask for. -/
theorem answers_handle {request : Request} (plain : ∀ script, request ≠ .execute script)
    (answers : ∀ operation : Operation B, request.MayAsk operation → ∀ now,
      Step.Answers (operation.run now)) :
    Step.Answers (handle (B := B) clock raises request) := by
  cases request with
  | connect =>
    exact (answers_inSession (answers .connect rfl 0)).bind fun _ => Step.answers_pure _
  | disconnect =>
    exact (answers_inSession (answers .disconnect rfl 0)).bind fun _ => Step.answers_pure _
  | execute script => exact absurd rfl (plain script)
  | loadContent cursor pattern count =>
    apply answers_inSession
    refine Step.Answers.bind (fun session broken => ?_) fun result => ?_
    · obtain ⟨operation, meant, broken⟩ := Session.breaksDown_runCall_iff.1 broken
      exact answers operation (Or.inl meant) _ session broken
    · refine (Step.answers_ofExcept _).bind fun found => ?_
      have answersSize := Step.answers_discard_iff.1 (answers .size (Or.inr rfl) (clock 0))
      exact answersSize.bind fun _ => Step.answers_pure _
  | clear => exact (answers_inSession (answers .flush rfl 0)).bind fun _ => Step.answers_pure _
  | serverInfo =>
    have answersInfo := Step.answers_discard_iff.1 (answers .serverInfo rfl (clock 0))
    exact (answers_inSession answersInfo).bind fun _ => Step.answers_pure _
  | discovery =>
    have answersInfo := Step.answers_discard_iff.1 (answers .serverInfo (Or.inl rfl) (clock 0))
    have answersToo := Step.answers_discard_iff.1 (answers .currentInfo (Or.inr rfl) (clock 0))
    refine (answers_inSession answersInfo).bind fun _ => ?_
    exact (answers_inSession answersToo).bind fun _ => Step.answers_pure _
  | commands => exact Step.answers_pure _
  | key request =>
    apply answers_inSession
    have answered := answers request.operation rfl (clock 0)
    cases request with
    | load | create | delete | changeTtl =>
      exact (Step.answers_discard_iff.1 answered).bind fun _ => Step.answers_pure _
    | rename => exact answered.bind fun _ => Step.answers_pure _

end Running

/-- A script breaks down with a line that does, once the lines in front of it have come to
their end and the flag has not been raised. -/
theorem Session.breaksDown_execute_iff {session : Session B} {clock : Nat → Instant}
    {raises : Nat → Bool} {script : String} :
    Step.BreaksDown (session.handleRequest clock raises (.execute script)) ↔
      ∃ first line rest results reached, CommandLine.commands script = first ++ line :: rest ∧
        runEach clock 0 first (session.withFlag false) = (results, .ok () reached) ∧
          (∀ n, 1 ≤ n → n ≤ first.length → raises n = false) ∧
            Step.BreaksDown (runLine (clock first.length) line reached) := by
  constructor
  · intro broken
    obtain ⟨after, broken⟩ := Step.breaksDown_iff.1 broken
    cases (session.execute_eq_iff_scriptEnds clock raises script _).1 broken with
    | @failed results _ last ran calm =>
      obtain ⟨first, line, rest, reached, split, ranFirst, halted⟩ := Step.inTurn_eq_error_iff.1 ran
      rw [Step.length_inTurn_of_ok ranFirst] at calm
      rw [Nat.zero_add] at halted
      exact ⟨first, line, rest, results, reached, split, ranFirst, calm,
        Step.breaksDown_iff.2 ⟨last, halted⟩⟩
  · rintro ⟨first, line, rest, results, reached, split, ranFirst, calm, broken⟩
    obtain ⟨last, halted⟩ := Step.breaksDown_iff.1 broken
    have ran : runEach clock 0 (CommandLine.commands script) (session.withFlag false)
        = (results, .error .broken last) := by
      refine Step.inTurn_eq_error_iff.2 ⟨first, line, rest, reached, split, ranFirst, ?_⟩
      rwa [Nat.zero_add]
    rw [(session.execute_eq_iff_scriptEnds clock raises script _).2 (.failed ran ?_)]
    · exact Step.breaksDown_broken
    · rwa [Step.length_inTurn_of_ok ranFirst]

end KeyConsole
