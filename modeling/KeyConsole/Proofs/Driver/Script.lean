import Mathlib.Data.Nat.Find
import KeyConsole.Proofs.Session.Flag
import KeyConsole.Proofs.Step.InTurn

/-!
# Scripts

A script runs its lines as they would be run one by one.  It ends with the first line
that fails, or in front of the first line that finds the interrupt flag up, or behind
its last line.  What has been done by then stays done, and the outputs are the results
of the lines that came to their end.
-/

namespace KeyConsole

variable {B : Backend}

namespace Session

/-- Run the lines of a script one by one until one fails, the line with number `n`,
counted from `done`, at the instant `clock n`. -/
abbrev runEach (clock : Nat → Instant) (done : Nat) (lines : List String) (session : Session B) :
    List CommandResult × EStateM.Result (Halt Error) (Session B) Unit :=
  Step.inTurn (fun n => runLine (clock n)) done lines session

variable {clock : Nat → Instant} {done : Nat} {session between after : Session B}
  {line : String} {lines : List String}

theorem runEach_cons_of_ok {result : CommandResult} {rest : List CommandResult}
    {ended : EStateM.Result (Halt Error) (Session B) Unit}
    (ran : runLine (clock done) line session = .ok result between)
    (ranRest : runEach clock (done + 1) lines between = (rest, ended)) :
    runEach clock done (line :: lines) session = (result :: rest, ended) :=
  Step.inTurn_cons_of_ok ran ranRest

theorem runEach_cons_of_error {halt : Halt Error}
    (failed : runLine (clock done) line session = .error halt after) :
    runEach clock done (line :: lines) session = ([], .error halt after) :=
  Step.inTurn_cons_of_error failed

end Session

namespace Running

/-- What is emitted for lines of a script of `total` lines, the first with number `done`:
the result of each, and how much is done behind it. -/
def lineEvents (total done : Nat) : List CommandResult → List Event
  | [] => []
  | result :: results =>
    .output result :: .progress (percent (done + 1) total) :: lineEvents total (done + 1) results

/-- How a script with given lines ends that begins in a session whose flag is down. -/
inductive ScriptEnds (clock : Nat → Instant) (raises : Nat → Bool) (start : Session B)
    (lines : List String) : EStateM.Result (Halt Error) (Running B) Response → Prop where
  /-- There is no line to run. -/
  | empty (none : lines = []) :
      ScriptEnds clock raises start lines
        (.error (.refused (.invalidArgument "empty command line")) ⟨start, []⟩)
  /-- A line fails, and the flag has not been raised before. -/
  | failed {results : List CommandResult} {halt : Halt Error} {after : Session B}
      (ran : Session.runEach clock 0 lines start = (results, .error halt after))
      (calm : ∀ n, 1 ≤ n → n ≤ results.length → raises n = false) :
      ScriptEnds clock raises start lines
        (.error halt ⟨after, lineEvents lines.length 0 results⟩)
  /-- The flag is raised while the output of a line arrives behind which there is
  another one. -/
  | interrupted {first rest : List String} {line : String} {results : List CommandResult}
      {reached : Session B} (begun : first ≠ []) (split : lines = first ++ line :: rest)
      (ran : Session.runEach clock 0 first start = (results, .ok () reached))
      (calm : ∀ n, 1 ≤ n → n < first.length → raises n = false)
      (raised : raises first.length = true) :
      ScriptEnds clock raises start lines
        (.error (.refused .interrupted)
          ⟨reached.withFlag true, lineEvents lines.length 0 results⟩)
  /-- All lines are run, and the flag is raised with the last output if at all. -/
  | finished {results : List CommandResult} {reached : Session B} (some : lines ≠ [])
      (ran : Session.runEach clock 0 lines start = (results, .ok () reached))
      (calm : ∀ n, 1 ≤ n → n < lines.length → raises n = false) :
      ScriptEnds clock raises start lines
        (.ok (.executed lines.length)
          ⟨reached.withFlag (raises lines.length), lineEvents lines.length 0 results⟩)

variable {clock : Nat → Instant} {raises : Nat → Bool} {total done : Nat}
  {session between after : Session B} {line : String} {lines : List String}
  {events : List Event} {results : List CommandResult}

/-! ## Steps of a script -/

theorem runLines_cons_of_up (up : session.interrupted = true) :
    runLines clock raises total done (line :: lines) ⟨session, events⟩
      = .error (.refused .interrupted) ⟨session, events⟩ := by
  apply Step.bind_of_error
  rw [checkInterrupt, if_pos up]

theorem checkInterrupt_of_down (down : session.interrupted = false) :
    checkInterrupt ⟨session, events⟩ = .ok () ⟨session, events⟩ := by
  rw [checkInterrupt, if_neg (by simp [down])]

theorem runLines_cons_of_error {halt : Halt Error} (down : session.interrupted = false)
    (failed : Session.runLine (clock done) line session = .error halt after) :
    runLines clock raises total done (line :: lines) ⟨session, events⟩
      = .error halt ⟨after, events⟩ := by
  rw [runLines, Step.bind_of_ok (checkInterrupt_of_down down)]
  apply Step.bind_of_error
  rw [inSession, failed]

theorem interrupted_of_runLine {result : CommandResult}
    (ran : Session.runLine (clock done) line session = .ok result between) :
    between.interrupted = session.interrupted := by
  have same := Session.interrupted_runLine (clock done) line session
  rwa [ran] at same

/-- A line that comes to its end leaves the flag up if it is raised with its output. -/
theorem runLines_cons_of_ok {result : CommandResult} (down : session.interrupted = false)
    (ran : Session.runLine (clock done) line session = .ok result between) :
    runLines clock raises total done (line :: lines) ⟨session, events⟩
      = runLines clock raises total (done + 1) lines
        ⟨between.withFlag (raises (done + 1)),
          events ++ lineEvents total done [result]⟩ := by
  have inside : inSession (Session.runLine (clock done) line) ⟨session, events⟩
      = .ok result ⟨between, events⟩ := by
    rw [inSession, ran]
  rw [runLines, Step.bind_of_ok (checkInterrupt_of_down down), Step.bind_of_ok inside]
  have emitted : events ++ lineEvents total done [result]
      = events ++ [.output result] ++ [.progress (percent (done + 1) total)] := by
    rw [List.append_assoc]
    rfl
  rw [emitted]
  cases raises (done + 1) with
  | true => rfl
  | false =>
    rw [Session.withFlag_eq_self ((interrupted_of_runLine ran).trans down)]
    rfl

/-! ## Runs of lines -/

theorem lineEvents_cons (result : CommandResult) :
    lineEvents total done [result] ++ lineEvents total (done + 1) results
      = lineEvents total done (result :: results) :=
  rfl

/-- Lines come to their end one by one, and the flag is not raised before the last of
them. -/
theorem runLines_append {first : List String} (begun : first ≠ [])
    (down : session.interrupted = false)
    (ran : Session.runEach clock done first session = (results, .ok () after))
    (calm : ∀ n, done < n → n < done + first.length → raises n = false) :
    runLines clock raises total done (first ++ lines) ⟨session, events⟩
      = runLines clock raises total (done + first.length) lines
        ⟨after.withFlag (raises (done + first.length)),
          events ++ lineEvents total done results⟩ := by
  induction first generalizing done session events results with
  | nil => exact absurd rfl begun
  | cons line first ih =>
    cases ranLine : Session.runLine (clock done) line session with
    | error halt failed =>
      rw [Session.runEach_cons_of_error ranLine] at ran
      cases ran
    | ok result between =>
      cases ranRest : Session.runEach clock (done + 1) first between with | mk rest ended =>
      cases (Session.runEach_cons_of_ok ranLine ranRest).symm.trans ran
      rw [List.cons_append, runLines_cons_of_ok down ranLine]
      cases first with
      | nil =>
        cases ranRest
        rfl
      | cons next first =>
        have quiet : raises (done + 1) = false := by
          apply calm
          · omega
          · simp only [List.length_cons]
            omega
        have still : between.interrupted = false := (interrupted_of_runLine ranLine).trans down
        have place : done + (line :: next :: first).length
            = done + 1 + (next :: first).length := by
          simp only [List.length_cons]
          omega
        rw [quiet, Session.withFlag_eq_self still,
          ih (List.cons_ne_nil _ _) still ranRest fun n more less => ?_,
          List.append_assoc, lineEvents_cons, place]
        exact calm n (by omega) (by omega)

/-- A line fails behind lines that come to their end without a raised flag. -/
theorem runLines_of_error {halt : Halt Error} (down : session.interrupted = false)
    (ran : Session.runEach clock done lines session = (results, .error halt after))
    (calm : ∀ n, done < n → n ≤ done + results.length → raises n = false) :
    runLines clock raises total done lines ⟨session, events⟩
      = .error halt ⟨after, events ++ lineEvents total done results⟩ := by
  induction lines generalizing done session events results with
  | nil => cases ran
  | cons line lines ih =>
    cases ranLine : Session.runLine (clock done) line session with
    | error other failed =>
      rw [Session.runEach_cons_of_error ranLine] at ran
      cases ran
      rw [runLines_cons_of_error down ranLine, lineEvents, List.append_nil]
    | ok result between =>
      cases ranRest : Session.runEach clock (done + 1) lines between with | mk rest ended =>
      cases (Session.runEach_cons_of_ok ranLine ranRest).symm.trans ran
      rw [List.length_cons] at calm
      have quiet : raises (done + 1) = false := calm _ (by omega) (by omega)
      have still : between.interrupted = false := (interrupted_of_runLine ranLine).trans down
      rw [runLines_cons_of_ok down ranLine, quiet, Session.withFlag_eq_self still,
        ih still ranRest fun n more less => calm n (by omega) (by omega),
        List.append_assoc, lineEvents_cons]

/-! ## Whole scripts -/

/-- What is described as the end of a script is its end. -/
theorem ScriptEnds.execute_eq {script : String}
    {outcome : EStateM.Result (Halt Error) (Running B) Response}
    (ends : ScriptEnds clock raises (session.withFlag false) (CommandLine.commands script)
      outcome) :
    session.handleRequest clock raises (.execute script) = outcome := by
  have begins (some : CommandLine.commands script ≠ []) :
      session.handleRequest clock raises (.execute script)
        = (runLines clock raises (CommandLine.commands script).length 0
            (CommandLine.commands script) >>= fun _ =>
              pure (.executed (CommandLine.commands script).length))
          ⟨session.withFlag false, []⟩ := by
    have isEmpty : ¬(CommandLine.commands script).isEmpty = true := by
      simpa using some
    change execute clock raises script ⟨session, []⟩ = _
    rw [execute]
    dsimp only
    rw [if_neg isEmpty]
    rfl
  cases ends with
  | empty none =>
    change execute clock raises script ⟨session, []⟩ = _
    rw [execute]
    dsimp only
    rw [none]
    rfl
  | failed ran calm =>
    have some : CommandLine.commands script ≠ [] := by
      intro none
      rw [none] at ran
      cases ran
    rw [begins some]
    apply Step.bind_of_error
    apply runLines_of_error rfl ran
    intro n more less
    exact calm n more (by omega)
  | @interrupted first rest line results reached begun split ran calm raised =>
    rw [begins (by simp [split])]
    apply Step.bind_of_error
    have up : (reached.withFlag (raises (0 + first.length))).interrupted = true := by
      rw [Nat.zero_add]
      exact raised
    rw [split, runLines_append begun rfl ran fun n more less => calm n more (by omega),
      runLines_cons_of_up up, Nat.zero_add, raised]
    rfl
  | finished some ran calm =>
    have whole : runLines clock raises (CommandLine.commands script).length 0
        (CommandLine.commands script ++ []) ⟨session.withFlag false, []⟩ = _ :=
      runLines_append some rfl ran fun n more less => calm n more (by omega)
    rw [List.append_nil, Nat.zero_add] at whole
    rw [begins some, Step.bind_of_ok whole]
    rfl

/-- Every script has an end. -/
theorem exists_scriptEnds (clock : Nat → Instant) (raises : Nat → Bool) (start : Session B)
    (lines : List String) : ∃ outcome, ScriptEnds clock raises start lines outcome := by
  by_cases none : lines = []
  · exact ⟨_, .empty none⟩
  by_cases stops : ∃ n, 1 ≤ n ∧ n ≤ (Session.runEach clock 0 lines start).1.length ∧
      n < lines.length ∧ raises n = true
  · -- the first time that the flag is raised in front of another line
    classical
    obtain ⟨positive, reached, inside, raised⟩ := Nat.find_spec stops
    have least : ∀ n, 1 ≤ n → n < Nat.find stops → raises n = false := by
      intro n more less
      have early := Nat.find_min stops less
      simp only [not_and, Bool.not_eq_true] at early
      exact early more (by omega) (by omega)
    generalize Nat.find stops = place at positive reached inside raised least
    obtain ⟨between, ran⟩ := Step.inTurn_take reached
    have length : (lines.take place).length = place := List.length_take_of_le (Nat.le_of_lt inside)
    have begun : lines.take place ≠ [] := by
      intro empty
      rw [empty] at length
      exact absurd length (by simp; omega)
    have split : lines = lines.take place ++ lines[place] :: lines.drop (place + 1) := by
      rw [← List.drop_eq_getElem_cons inside, List.take_append_drop]
    exact ⟨_, .interrupted begun split ran (by rwa [length]) (by rwa [length])⟩
  · have calm : ∀ n, 1 ≤ n → n ≤ (Session.runEach clock 0 lines start).1.length →
        n < lines.length → raises n = false := by
      intro n more reached less
      cases raised : raises n with
      | false => rfl
      | true => exact absurd ⟨n, more, reached, less, raised⟩ stops
    cases ran : Session.runEach clock 0 lines start with | mk results ended =>
    rw [ran] at calm
    cases ended with
    | ok result after =>
      have length := Step.length_inTurn_of_ok ran
      exact ⟨_, .finished none ran fun n more less => calm n more (by dsimp only; omega) less⟩
    | error halt after =>
      have length := Step.length_inTurn_of_error ran
      exact ⟨_, .failed ran fun n more less => calm n more less (by omega)⟩

end Running

/-- A script lowers the flag, and then runs its lines one by one up to its end: a line
that fails, a raised flag in front of another line, or the last line. -/
theorem Session.execute_eq_iff_scriptEnds (session : Session B) (clock : Nat → Instant)
    (raises : Nat → Bool) (script : String)
    (outcome : EStateM.Result (Halt Error) (Running B) Response) :
    session.handleRequest clock raises (.execute script) = outcome ↔
      Running.ScriptEnds clock raises (session.withFlag false) (CommandLine.commands script)
        outcome := by
  constructor
  · intro isOutcome
    obtain ⟨other, ends⟩ := Running.exists_scriptEnds clock raises (session.withFlag false)
      (CommandLine.commands script)
    rw [ends.execute_eq] at isOutcome
    exact isOutcome ▸ ends
  · exact Running.ScriptEnds.execute_eq

end KeyConsole
