import KeyConsole.Proofs.Driver.Dispatch
import KeyConsole.Backend.Memory
import Mathlib.Data.Prod.Lex
import Mathlib.Order.WellFounded

/-!
# Workers are serial

However the moves of handles, receivers and the worker are mixed, the requests are handled
one after the other in the order in which they were submitted, as the session alone handles
them, and every receiver has the events of its own job.  When the last handle has been
dropped, the worker comes to its end if it is not held up for ever: all that was submitted
is handled by then, and the session is disconnected.
-/

namespace KeyConsole

variable {B : Backend}

namespace Dispatch

/-- A worker has done with the requests as its session does with one after the other. -/
structure Serial (session : Session B) (moves : List Move) (dispatch : Dispatch B) : Prop where
  behind : (Move.clocks moves).length ≤ (Move.requests moves).length
  /-- The jobs that wait are those of the later requests, in their order. -/
  queue : dispatch.worker.queue
    = ((Move.requests moves).mapIdx Job.mk).drop (Move.clocks moves).length
  /-- Jobs are handled one at a time: all is told about one before anything about the next. -/
  told : dispatch.worker.told = JobEvent.log (session.outcomes (Move.handled moves))
  reached : dispatch.ended = false →
    dispatch.worker.session = session.afterEach (Move.handled moves)
  receivers : dispatch.receivers.length = (Move.requests moves).length
  /-- A receiver has what has been sent to it, whoever else has been dropped. -/
  holds : ∀ (ticket : Nat) (receiver : Receiver), dispatch.receivers[ticket]? = some receiver →
    receiver.Holds (dispatch.sentTo ticket)
  /-- Nothing is sent to a receiver but the events of its own job, in their order. -/
  own : ∀ ticket, dispatch.sentTo ticket <+:
    ((session.outcomes (Move.handled moves))[ticket]?.map Outcome.report).getD []
  /-- All has been sent about a job that the worker is not at work on any more, with the
  outputs and the answer of its request. -/
  completed : ∀ {ticket : Nat} {outcome : Outcome B},
    (session.outcomes (Move.handled moves))[ticket]? = some outcome →
    ticket + 1 < (Move.clocks moves).length ∨ dispatch.sent = dispatch.worker.told.length →
      dispatch.sentTo ticket = outcome.report ∧
        ∃ progress result, Step.answer? outcome = some result ∧
          Worker.collect [] [] (dispatch.sentTo ticket)
            = .ok ⟨progress, outcome.outputs, result⟩
  /-- A worker finishes only when all requests have been handled, and disconnects. -/
  finished : dispatch.ended = true →
    dispatch.handles = 0 ∧ (Move.clocks moves).length = (Move.requests moves).length ∧
      dispatch.sent = dispatch.worker.told.length ∧
      dispatch.worker.session
        = Step.finalState (Session.disconnect (session.afterEach (Move.handled moves))) ∧
      dispatch.worker.session.handle = none

namespace Tracks

variable {session : Session B} {requests : List Request} {clocks : List (Nat → Instant)}
  {moves : List Move} {dispatch : Dispatch B}

/-- What has been told and what waits is as if the worker had not finished. -/
theorem exists_follows (tracks : Tracks session requests clocks dispatch) :
    ∃ before : Worker B, before.Follows session requests clocks ∧
      dispatch.worker.told = before.told ∧ dispatch.worker.queue = before.queue ∧
      dispatch.worker.stopped = before.stopped ∧
      (dispatch.ended = true → dispatch.worker = before.finish) := by
  obtain ⟨before, follows, isBefore⟩ := tracks.follows
  refine ⟨before, follows, ?_⟩
  rw [isBefore]
  cases dispatch.ended with
  | false => exact ⟨rfl, rfl, rfl, nofun⟩
  | true =>
    exact ⟨before.told_finish, before.queue_finish, before.stopped_finish, fun _ => rfl⟩

/-- Nothing is left to be sent about the jobs before the last one. -/
theorem sentTo_eq (tracks : Tracks session requests clocks dispatch) {ticket : Nat}
    (past : ticket + 1 < clocks.length ∨ dispatch.sent = dispatch.worker.told.length) :
    dispatch.sentTo ticket = JobEvent.under ticket dispatch.worker.told := by
  have rest : JobEvent.under ticket (dispatch.worker.told.drop dispatch.sent) = [] := by
    rcases past with earlier | allSent
    · apply JobEvent.under_eq_nil
      rintro entry mem rfl
      exact earlier.ne (tracks.channels.unsent entry mem)
    · rw [allSent, List.drop_length]
      rfl
  rw [← dispatch.sentTo_append, rest, List.append_nil]

theorem serial (tracks : Tracks session (Move.requests moves) (Move.clocks moves) dispatch)
    (sound : dispatch.worker.stopped = false) : Serial session moves dispatch := by
  obtain ⟨before, follows, told, queue, stopped, isFinish⟩ := tracks.exists_follows
  have log : dispatch.worker.told = JobEvent.log (session.outcomes (Move.handled moves)) :=
    told.trans follows.told
  refine ⟨follows.behind, queue.trans follows.queue, log, fun running =>
    (tracks.follows_of_running running).reached, tracks.channels.receivers,
    tracks.channels.holds, fun ticket => ?_, fun {ticket outcome} found past => ?_,
    fun ended => ?_⟩
  · rw [← JobEvent.under_log, ← log, ← dispatch.sentTo_append]
    exact List.prefix_append _ _
  · have all : dispatch.sentTo ticket = Outcome.report outcome := by
      rw [tracks.sentTo_eq past, log, JobEvent.under_log, found]
      rfl
    refine ⟨all, ?_⟩
    rw [all]
    exact Worker.collect_report (follows.answered outcome (List.mem_of_getElem? found))
  · obtain ⟨unheld, empty, allSent⟩ := tracks.closed ended
    have disconnected : dispatch.worker.session
        = Step.finalState (Session.disconnect (session.afterEach (Move.handled moves))) := by
      rw [isFinish ended, Worker.session_finish (stopped.symm.trans sound), follows.reached]
      rfl
    have allHandled := follows.queue_eq_nil_iff.1 (queue.symm.trans empty)
    refine ⟨unheld, allHandled, allSent, disconnected, ?_⟩
    rw [disconnected]
    exact Session.handle_finalState_disconnect _

end Tracks

/-! ## What is left to do -/

/-- The jobs that wait, and behind them the events that have not been sent. -/
def remaining (dispatch : Dispatch B) : ℕ ×ₗ ℕ :=
  toLex (dispatch.worker.queue.length, dispatch.worker.told.length - dispatch.sent)

variable {dispatch after : Dispatch B} {move : Move}

/-- A worker that has broken down has done so for ever. -/
theorem sound_of_move? (moved : dispatch.move? move = some after)
    (sound : after.worker.stopped = false) : dispatch.worker.stopped = false := by
  cases move with
  | clone | drop =>
    obtain ⟨_, moved⟩ := Option.ite_none_right_eq_some.1 moved
    cases moved
    exact sound
  | submit request =>
    by_cases stopped : dispatch.worker.stopped = true
    · have refused : dispatch.worker.submit request
          = .error (.connectionFailed "driver worker has stopped") := if_pos stopped
      obtain ⟨_, moved⟩ := Option.ite_none_right_eq_some.1 moved
      rw [refused] at moved
      cases moved
      exact sound
    · exact Bool.eq_false_iff.2 stopped
  | take | leave =>
    cases moved
    exact sound
  | send =>
    simp only [move?] at moved
    split at moved
    · cases moved
      exact sound
    · cases moved
  | handle | finish => exact (Option.ite_none_right_eq_some.1 moved).1.1.2.1

/-- Every move of the worker takes something off what is left to do, but the last. -/
theorem remaining_lt_of_move? (moved : dispatch.move? move = some after)
    (ofWorker : move.OfWorker) :
    after.ended = true ∨ after.remaining < dispatch.remaining := by
  cases move with
  | clone | drop | submit | take | leave => cases ofWorker
  | handle clock =>
    obtain ⟨⟨⟨_, running, _⟩, waiting⟩, moved⟩ := Option.ite_none_right_eq_some.1 moved
    cases moved
    obtain ⟨job, queue, isQueue⟩ := List.exists_cons_of_ne_nil waiting
    refine Or.inr (Prod.Lex.toLex_lt_toLex.2 (Or.inl ?_))
    simp [Worker.step, running, isQueue, Worker.runJob_eq]
  | send =>
    simp only [move?] at moved
    split at moved
    · next next =>
      cases moved
      have within := (List.getElem?_eq_some_iff.1 next).1
      exact Or.inr (Prod.Lex.toLex_lt_toLex.2 (Or.inr ⟨rfl, Nat.sub_succ_lt_self _ _ within⟩))
    · cases moved
  | finish =>
    obtain ⟨_, moved⟩ := Option.ite_none_right_eq_some.1 moved
    cases moved
    exact Or.inl rfl

/-- Without a handle there comes no other, and nothing is added to what is left to do. -/
theorem unheld_of_move? (unheld : dispatch.handles = 0)
    (moved : dispatch.move? move = some after) :
    after.handles = 0 ∧ after.remaining ≤ dispatch.remaining := by
  cases move with
  | clone | drop | submit =>
    have held := (Option.ite_none_right_eq_some.1 moved).1
    exact absurd unheld held.ne'
  | take | leave =>
    cases moved
    exact ⟨unheld, le_refl _⟩
  | handle clock =>
    have less := remaining_lt_of_move? moved trivial
    obtain ⟨⟨⟨running, _⟩, _⟩, moved⟩ := Option.ite_none_right_eq_some.1 moved
    cases moved
    refine ⟨unheld, (less.resolve_left fun ended => ?_).le⟩
    exact absurd (running.symm.trans ended) Bool.false_ne_true
  | send =>
    simp only [move?] at moved
    split at moved
    · cases moved
      refine ⟨unheld, Prod.Lex.toLex_le_toLex.2 (Or.inr ⟨rfl, Nat.sub_le_sub_left ?_ _⟩)⟩
      exact Nat.le_succ _
    · cases moved
  | finish =>
    obtain ⟨_, moved⟩ := Option.ite_none_right_eq_some.1 moved
    cases moved
    refine ⟨unheld, le_of_eq ?_⟩
    simp only [remaining, Worker.queue_finish, Worker.told_finish]

/-- Without a handle the worker can make a move until it has finished. -/
theorem canWork_of_unheld (unheld : dispatch.handles = 0) (running : dispatch.ended = false)
    (sound : dispatch.worker.stopped = false)
    (sent : dispatch.sent ≤ dispatch.worker.told.length) : dispatch.CanWork := by
  by_cases allSent : dispatch.sent = dispatch.worker.told.length
  · have atQueue : dispatch.AtQueue := ⟨running, sound, allSent⟩
    by_cases empty : dispatch.worker.queue = []
    · exact ⟨.finish, trivial, _, if_pos ⟨atQueue, empty, unheld⟩⟩
    · exact ⟨.handle fun _ => 0, trivial, _, if_pos ⟨atQueue, empty⟩⟩
  · have within := Nat.lt_of_le_of_ne sent allSent
    refine ⟨.send, trivial, ?_⟩
    simp only [move?, List.getElem?_eq_getElem within]
    exact ⟨_, rfl⟩

/-- A worker that has finished makes no move. -/
theorem Tracks.not_canWork {session : Session B} {requests : List Request}
    {clocks : List (Nat → Instant)} (tracks : Tracks session requests clocks dispatch)
    (ended : dispatch.ended = true) : ¬dispatch.CanWork := by
  rintro ⟨move, ofWorker, after, moved⟩
  have running : dispatch.ended = false → False := fun running =>
    Bool.false_ne_true (running.symm.trans ended)
  cases move with
  | clone | drop | submit | take | leave => cases ofWorker
  | handle | finish => exact running (Option.ite_none_right_eq_some.1 moved).1.1.1
  | send =>
    have none : dispatch.worker.told[dispatch.sent]? = none := by
      rw [(tracks.closed ended).2.2, List.getElem?_eq_none (le_refl _)]
    simp only [move?, none] at moved
    cases moved

/-! ## Moves one after the other -/

/-- What moves lead to, if they can be made one after the other. -/
def run? (dispatch : Dispatch B) (moves : List Move) : Option (Dispatch B) :=
  moves.foldlM move? dispatch

theorem run?_append (dispatch : Dispatch B) (moves more : List Move) :
    dispatch.run? (moves ++ more) = (dispatch.run? moves).bind fun between => between.run? more :=
  List.foldlM_append

theorem run?_concat (dispatch : Dispatch B) (moves : List Move) (move : Move) :
    dispatch.run? (moves ++ [move])
      = (dispatch.run? moves).bind fun between => between.move? move := by
  rw [run?_append]
  congr
  funext between
  exact bind_pure _

theorem exists_run?_take {moves : List Move} {last : Dispatch B}
    (ran : dispatch.run? moves = some last) (n : Nat) :
    ∃ between, dispatch.run? (moves.take n) = some between ∧
      between.run? (moves.drop n) = some last := by
  rw [← List.take_append_drop n moves, run?_append] at ran
  exact Option.bind_eq_some_iff.1 ran

theorem sound_of_run? {moves : List Move} {last : Dispatch B}
    (ran : dispatch.run? moves = some last) (sound : last.worker.stopped = false) :
    dispatch.worker.stopped = false := by
  induction moves generalizing dispatch with
  | nil =>
    cases ran
    exact sound
  | cons move moves ih =>
    obtain ⟨between, moved, rest⟩ := Option.bind_eq_some_iff.1 ran
    exact sound_of_move? moved (ih rest)

end Dispatch

/-! ## Histories -/

/-- What happens to a worker in the course of time, without end. -/
structure History (session : Session B) where
  state : Nat → Dispatch B
  /-- What happens next; it may be nothing. -/
  move : Nat → Option Move
  begins : state 0 = Dispatch.start session
  continues : ∀ n, (move n).elim (some (state n)) (state n).move? = some (state (n + 1))

namespace History

variable {session : Session B}

/-- The moves that have been made. -/
def moves (history : History session) (n : Nat) : List Move :=
  (List.range n).filterMap history.move

/-- No request breaks down. -/
def Sound (history : History session) : Prop :=
  ∀ n, (history.state n).worker.stopped = false

/-- The worker is not held up for ever while it can make a move. -/
def Fair (history : History session) : Prop :=
  ∀ n, ∃ later, n ≤ later ∧
    ((∃ move, history.move later = some move ∧ move.OfWorker) ∨
      ¬(history.state later).CanWork)

theorem moves_succ (history : History session) (n : Nat) :
    history.moves (n + 1) = history.moves n ++ (history.move n).toList := by
  rw [moves, List.range_succ, List.filterMap_append]
  cases made : history.move n <;> simp [moves, made]

/-- What happens next is nothing, or a move that can be made. -/
theorem next (history : History session) (n : Nat) :
    (history.move n = none ∧ history.state (n + 1) = history.state n) ∨
      ∃ move, history.move n = some move ∧
        (history.state n).move? move = some (history.state (n + 1)) := by
  have continues := history.continues n
  cases made : history.move n with
  | none =>
    rw [made] at continues
    exact Or.inl ⟨rfl, (Option.some.inj continues).symm⟩
  | some move =>
    rw [made] at continues
    exact Or.inr ⟨move, rfl, continues⟩

variable {history : History session}

theorem tracks (sound : history.Sound) (n : Nat) :
    Dispatch.Tracks session (Move.requests (history.moves n)) (Move.clocks (history.moves n))
      (history.state n) := by
  induction n with
  | zero =>
    rw [history.begins]
    exact Dispatch.Tracks.start session
  | succ n ih =>
    rw [history.moves_succ]
    rcases history.next n with ⟨nothing, same⟩ | ⟨move, made, moved⟩
    · rw [nothing, same, Option.toList_none, List.append_nil]
      exact ih
    · rw [made, Option.toList_some, Move.requests_concat, Move.clocks_concat]
      exact ih.move moved (sound n) (sound (n + 1))

/-- When the last handle has been dropped, nothing is added to what is left to do. -/
theorem unheld_of_le {n later : Nat} (le : n ≤ later) (unheld : (history.state n).handles = 0) :
    (history.state later).handles = 0 ∧
      (history.state later).remaining ≤ (history.state n).remaining := by
  induction later, le using Nat.le_induction with
  | base => exact ⟨unheld, le_refl _⟩
  | succ later _ ih =>
    rcases history.next later with ⟨_, same⟩ | ⟨move, _, moved⟩
    · rwa [same]
    · obtain ⟨unheld, less⟩ := Dispatch.unheld_of_move? ih.1 moved
      exact ⟨unheld, less.trans ih.2⟩

/-- When the last handle has been dropped, the worker comes to its end. -/
theorem exists_ended (sound : history.Sound) (fair : history.Fair) (n : Nat)
    (unheld : (history.state n).handles = 0) :
    ∃ later, n ≤ later ∧ (history.state later).ended = true := by
  induction left : (history.state n).remaining using WellFoundedLT.induction generalizing n with
  | ind left' ih =>
    subst left
    obtain ⟨later, le, works⟩ := fair n
    obtain ⟨unheldLater, noMore⟩ := unheld_of_le le unheld
    rcases works with ⟨move, made, ofWorker⟩ | stuck
    · rcases history.next later with ⟨nothing, _⟩ | ⟨other, madeOther, moved⟩
      · rw [nothing] at made
        cases made
      · cases made.symm.trans madeOther
        rcases Dispatch.remaining_lt_of_move? moved ofWorker with ended | less
        · exact ⟨later + 1, Nat.le_succ_of_le le, ended⟩
        · have unheldNext := (Dispatch.unheld_of_move? unheldLater moved).1
          obtain ⟨last, leLast, ended⟩ := ih _ (less.trans_le noMore) (later + 1) unheldNext rfl
          exact ⟨last, le.trans ((Nat.le_succ later).trans leLast), ended⟩
    · refine ⟨later, le, ?_⟩
      by_contra running
      exact stuck (Dispatch.canWork_of_unheld unheldLater (Bool.eq_false_iff.2 running)
        (sound later) (tracks sound later).channels.sent)

/-! ## Finite histories -/

/-- Moves that can be made one after the other, and nothing behind them. -/
def pausing {moves : List Move} {last : Dispatch B}
    (ran : (Dispatch.start session).run? moves = some last) : History session where
  state n := ((Dispatch.start session).run? (moves.take n)).getD last
  move n := moves[n]?
  begins := by rw [List.take_zero]; rfl
  continues n := by
    obtain ⟨before, ranBefore, _⟩ := Dispatch.exists_run?_take ran n
    by_cases within : n < moves.length
    · obtain ⟨after, ranAfter, _⟩ := Dispatch.exists_run?_take ran (n + 1)
      have moved := ranAfter
      rw [List.take_succ_eq_append_getElem within, Dispatch.run?_concat, ranBefore] at moved
      rw [List.getElem?_eq_getElem within, ranBefore, ranAfter]
      exact moved
    · have beyond := Nat.le_of_not_lt within
      rw [List.getElem?_eq_none beyond, List.take_of_length_le beyond,
        List.take_of_length_le (Nat.le_succ_of_le beyond)]
      rfl

variable {moves : List Move} {last : Dispatch B}

theorem state_pausing (ran : (Dispatch.start session).run? moves = some last) {n : Nat}
    {between : Dispatch B}
    (ranBefore : (Dispatch.start session).run? (moves.take n) = some between) :
    (pausing ran).state n = between := by
  change ((Dispatch.start session).run? (moves.take n)).getD last = between
  rw [ranBefore]
  rfl

theorem state_pausing_of_le (ran : (Dispatch.start session).run? moves = some last) {n : Nat}
    (beyond : moves.length ≤ n) : (pausing ran).state n = last := by
  apply state_pausing ran
  rwa [List.take_of_length_le beyond]

theorem sound_pausing (ran : (Dispatch.start session).run? moves = some last)
    (sound : last.worker.stopped = false) : (pausing ran).Sound := by
  intro n
  obtain ⟨between, ranBefore, ranBehind⟩ := Dispatch.exists_run?_take ran n
  rw [state_pausing ran ranBefore]
  exact Dispatch.sound_of_run? ranBehind sound

/-- A worker that has come to its end is not held up. -/
theorem fair_pausing (ran : (Dispatch.start session).run? moves = some last)
    (sound : last.worker.stopped = false) (ended : last.ended = true) : (pausing ran).Fair := by
  intro n
  refine ⟨max n moves.length, le_max_left _ _, Or.inr ?_⟩
  have isLast := state_pausing_of_le ran (le_max_right n moves.length)
  have tracks := tracks (sound_pausing ran sound) (max n moves.length)
  rw [isLast] at tracks ⊢
  exact tracks.not_canWork ended

/-- However the moves are mixed, a worker none of whose requests breaks down handles them as
its session does one after the other; and when the last handle has been dropped it comes to
its end, if it is not held up for ever. -/
theorem serialises (history : History session) (sound : history.Sound) :
    (∀ n, (history.state n).Serial session (history.moves n)) ∧
      (history.Fair → ∀ n, (history.state n).handles = 0 →
        ∃ later, n ≤ later ∧ (history.state later).ended = true) :=
  ⟨fun n => (tracks sound n).serial (sound n), fun fair => exists_ended sound fair⟩

/-- Two handles, the last of which is dropped while requests wait, and a receiver that is
dropped: the worker handles all requests, and then it disconnects. -/
theorem serialises_dropped :
    let session : Session Memory.backend := Session.new (Config.forDatabase "main") ()
    let moves : List Move :=
      [.clone, .submit .connect, .submit (.key (.create ⟨[97], .integer 1⟩)),
        .handle fun _ => 0, .leave 0, .send, .drop, .submit (.key (.load [97])), .drop,
        .send, .send, .handle fun _ => 0, .send, .take 1, .send, .send,
        .handle fun _ => 0, .send, .send, .take 2, .send, .finish]
    ∃ history : History session, history.Sound ∧ history.Fair ∧
      history.moves 22 = moves ∧ (history.state 9).handles = 0 ∧
        (∀ n, (history.state n).Serial session (history.moves n)) ∧
          ∃ later, 9 ≤ later ∧ (history.state later).ended = true := by
  intro session moves
  have comesToEnd : ((Dispatch.start session).run? moves).any
      (fun last => !last.worker.stopped && last.ended) = true := by decide +kernel
  have isDropped : ((Dispatch.start session).run? (moves.take 9)).any (·.handles == 0) = true := by
    decide +kernel
  obtain ⟨last, ran, isEnd⟩ := (Option.any_eq_true _ _).1 comesToEnd
  obtain ⟨running, ended⟩ := Bool.and_eq_true_iff.1 isEnd
  have sound : last.worker.stopped = false := (Bool.not_eq_true' _).mp running
  have isSound := sound_pausing ran sound
  have isFair := fair_pausing ran sound ended
  have unheld : ((pausing ran).state 9).handles = 0 := by
    obtain ⟨between, ranBetween, none⟩ := (Option.any_eq_true _ _).1 isDropped
    rw [state_pausing ran ranBetween]
    exact beq_iff_eq.1 none
  obtain ⟨serial, ends⟩ := serialises (pausing ran) isSound
  exact ⟨pausing ran, isSound, isFair, rfl, unheld, serial, ends isFair 9 unheld⟩

end History

end KeyConsole
