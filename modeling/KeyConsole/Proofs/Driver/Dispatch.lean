import KeyConsole.Proofs.Driver.Queue
import KeyConsole.Proofs.Session.Operation

/-!
# Handles and receivers of a worker

Who has a handle of a worker submits requests, and for each receives the events on a channel
of its own.  Handles can be cloned and dropped, and a receiver can be dropped before all has
come.  Anything may happen between two moves of the worker, which are to handle the next
job, to send the next event, and to finish when no handle and no job is left.  Nobody but
the worker sees its session, so that a job can be handled at once and its events be sent
afterwards.
-/

namespace KeyConsole

variable {B : Backend}

/-! ## Receivers -/

/-- The receiving end of the channel of a job. -/
structure Receiver where
  /-- The events that have been taken, the oldest first. -/
  taken : List JobEvent
  /-- The events that have come and wait to be taken. -/
  waiting : List JobEvent
  /-- Whether it has not been dropped. -/
  listening : Bool

namespace Receiver

def fresh : Receiver :=
  ⟨[], [], true⟩

/-- An event comes; it is lost if the receiver has been dropped. -/
def accept (event : JobEvent) (receiver : Receiver) : Receiver :=
  if receiver.listening then { receiver with waiting := receiver.waiting ++ [event] }
  else receiver

/-- Take the next event, if one has come. -/
def take (receiver : Receiver) : Receiver :=
  match receiver.waiting with
  | [] => receiver
  | event :: waiting =>
    { receiver with taken := receiver.taken ++ [event], waiting := waiting }

/-- Drop the receiver. -/
def leave (receiver : Receiver) : Receiver :=
  { receiver with waiting := [], listening := false }

/-- A receiver to which events have been sent has them in their order, all of them if it
has not been dropped. -/
structure Holds (sent : List JobEvent) (receiver : Receiver) : Prop where
  start : receiver.taken ++ receiver.waiting <+: sent
  all : receiver.listening = true → receiver.taken ++ receiver.waiting = sent

theorem holds_fresh : Holds [] fresh where
  start := List.prefix_rfl
  all _ := rfl

variable {sent : List JobEvent} {receiver : Receiver}

theorem Holds.accept (holds : receiver.Holds sent) (event : JobEvent) :
    (receiver.accept event).Holds (sent ++ [event]) := by
  unfold Receiver.accept
  split
  · next listening =>
    have all : receiver.taken ++ (receiver.waiting ++ [event]) = sent ++ [event] := by
      rw [← List.append_assoc, holds.all listening]
    exact ⟨all ▸ List.prefix_rfl, fun _ => all⟩
  · next left =>
    exact ⟨holds.start.trans (List.prefix_append _ _), fun same => absurd same left⟩

theorem Holds.take (holds : receiver.Holds sent) : receiver.take.Holds sent := by
  unfold Receiver.take
  split
  · exact holds
  · next event waiting comes =>
    have same : receiver.taken ++ [event] ++ waiting = receiver.taken ++ receiver.waiting := by
      rw [comes, List.append_assoc]
      rfl
    exact ⟨same ▸ holds.start, fun listening => same ▸ holds.all listening⟩

theorem Holds.leave (holds : receiver.Holds sent) : receiver.leave.Holds sent where
  start := by
    rw [Receiver.leave, List.append_nil]
    exact (List.prefix_append _ _).trans holds.start
  all := nofun

end Receiver

/-! ## Moves -/

/-- A worker with its handles and receivers. -/
structure Dispatch (B : Backend) where
  worker : Worker B
  /-- The number of handles that have not been dropped. -/
  handles : Nat
  /-- How many of the events that the worker tells have been sent. -/
  sent : Nat
  /-- The receivers of all jobs, by ticket. -/
  receivers : List Receiver
  /-- Whether the worker has finished. -/
  ended : Bool

/-- What can happen. -/
inductive Move where
  /-- A handle is cloned. -/
  | clone
  /-- A handle is dropped. -/
  | drop
  /-- A request is submitted by way of a handle. -/
  | submit (request : Request)
  /-- An event is taken by the receiver of a job. -/
  | take (ticket : Nat)
  /-- The receiver of a job is dropped. -/
  | leave (ticket : Nat)
  /-- The worker handles the next job. -/
  | handle (clock : Nat → Instant)
  /-- The worker sends the next event. -/
  | send
  /-- The worker finishes. -/
  | finish

namespace Move

/-- The moves of the worker. -/
def OfWorker : Move → Prop
  | handle _ | send | finish => True
  | clone | drop | submit _ | take _ | leave _ => False

def request? : Move → Option Request
  | submit request => some request
  | _ => none

def clock? : Move → Option (Nat → Instant)
  | handle clock => some clock
  | _ => none

/-- The requests that have been submitted, the oldest first. -/
def requests (moves : List Move) : List Request :=
  moves.filterMap request?

/-- The clocks by which jobs have been handled, the oldest first. -/
def clocks (moves : List Move) : List (Nat → Instant) :=
  moves.filterMap clock?

/-- The requests that have been handled, in the order in which they were submitted. -/
def handled (moves : List Move) : List ((Nat → Instant) × Request) :=
  (clocks moves).zip (requests moves)

theorem requests_concat (moves : List Move) (move : Move) :
    requests (moves ++ [move]) = requests moves ++ move.request?.toList := by
  rw [requests, List.filterMap_append]
  cases move <;> rfl

theorem clocks_concat (moves : List Move) (move : Move) :
    clocks (moves ++ [move]) = clocks moves ++ move.clock?.toList := by
  rw [clocks, List.filterMap_append]
  cases move <;> rfl

end Move

namespace Dispatch

/-- A worker with one handle. -/
def start (session : Session B) : Dispatch B where
  worker := Worker.start session
  handles := 1
  sent := 0
  receivers := []
  ended := false

/-- The worker looks at its queue: it is not at work on a job. -/
def AtQueue (dispatch : Dispatch B) : Prop :=
  dispatch.ended = false ∧ dispatch.worker.stopped = false ∧
    dispatch.sent = dispatch.worker.told.length

instance (dispatch : Dispatch B) : Decidable dispatch.AtQueue :=
  inferInstanceAs (Decidable (_ ∧ _ ∧ _))

/-- Change the receiver of a job. -/
def atReceiver (dispatch : Dispatch B) (ticket : Nat) (change : Receiver → Receiver) :
    Dispatch B :=
  { dispatch with receivers := dispatch.receivers.modify ticket change }

theorem exists_of_getElem?_atReceiver {dispatch : Dispatch B} {ticket other : Nat}
    {change : Receiver → Receiver} {changed : Receiver}
    (found : (dispatch.atReceiver ticket change).receivers[other]? = some changed) :
    ∃ receiver, dispatch.receivers[other]? = some receiver ∧
      changed = if ticket = other then change receiver else receiver := by
  rw [atReceiver, List.getElem?_modify] at found
  obtain ⟨receiver, before, same⟩ := Option.map_eq_some_iff.1 found
  exact ⟨receiver, before, same.symm⟩

/-- What a move leads to, if it can be made. -/
def move? (dispatch : Dispatch B) : Move → Option (Dispatch B)
  | .clone =>
    if 0 < dispatch.handles then some { dispatch with handles := dispatch.handles + 1 } else none
  | .drop =>
    if 0 < dispatch.handles then some { dispatch with handles := dispatch.handles - 1 } else none
  | .submit request =>
    if 0 < dispatch.handles then
      match dispatch.worker.submit request with
      | .ok (_, worker) =>
        some { dispatch with
          worker := worker, receivers := dispatch.receivers ++ [Receiver.fresh] }
      | .error _ => some dispatch
    else none
  | .take ticket => some (dispatch.atReceiver ticket Receiver.take)
  | .leave ticket => some (dispatch.atReceiver ticket Receiver.leave)
  | .handle clock =>
    if dispatch.AtQueue ∧ dispatch.worker.queue ≠ [] then
      some { dispatch with worker := dispatch.worker.step clock fun _ => false }
    else none
  | .send =>
    match dispatch.worker.told[dispatch.sent]? with
    | some (ticket, event) =>
      some { dispatch.atReceiver ticket (Receiver.accept event) with sent := dispatch.sent + 1 }
    | none => none
  | .finish =>
    if dispatch.AtQueue ∧ dispatch.worker.queue = [] ∧ dispatch.handles = 0 then
      some { dispatch with worker := dispatch.worker.finish, ended := true }
    else none

/-- The worker can make a move. -/
def CanWork (dispatch : Dispatch B) : Prop :=
  ∃ move : Move, move.OfWorker ∧ ∃ after, dispatch.move? move = some after

/-- The events that have been sent to the receiver of a job. -/
def sentTo (dispatch : Dispatch B) (ticket : Nat) : List JobEvent :=
  JobEvent.under ticket (dispatch.worker.told.take dispatch.sent)

/-- What is told under a ticket has been sent, or is left to be sent. -/
theorem sentTo_append (dispatch : Dispatch B) (ticket : Nat) :
    dispatch.sentTo ticket ++ JobEvent.under ticket (dispatch.worker.told.drop dispatch.sent)
      = JobEvent.under ticket dispatch.worker.told := by
  rw [sentTo, ← JobEvent.under_append, List.take_append_drop]

/-! ## Channels -/

/-- Every job has a channel of its own, and what is not sent yet belongs to the last of the
jobs that have been handled. -/
structure Channels (dispatch : Dispatch B) (submitted handled : Nat) : Prop where
  sent : dispatch.sent ≤ dispatch.worker.told.length
  receivers : dispatch.receivers.length = submitted
  unsent : ∀ entry ∈ dispatch.worker.told.drop dispatch.sent, entry.1 + 1 = handled
  holds : ∀ (ticket : Nat) (receiver : Receiver), dispatch.receivers[ticket]? = some receiver →
    receiver.Holds (dispatch.sentTo ticket)

namespace Channels

variable {dispatch : Dispatch B} {submitted handled : Nat}

theorem atReceiver (channels : dispatch.Channels submitted handled) (ticket : Nat)
    {change : Receiver → Receiver}
    (kept : ∀ {sent receiver}, receiver.Holds sent → (change receiver).Holds sent) :
    (dispatch.atReceiver ticket change).Channels submitted handled where
  sent := channels.sent
  receivers := (List.length_modify _ _ _).trans channels.receivers
  unsent := channels.unsent
  holds other changed found := by
    obtain ⟨receiver, before, rfl⟩ := exists_of_getElem?_atReceiver found
    have holds := channels.holds other receiver before
    change Receiver.Holds (dispatch.sentTo other) _
    split
    · exact kept holds
    · exact holds

/-- A new channel is empty, because nothing is told about a job before it is handled. -/
theorem submit (channels : dispatch.Channels submitted handled) {worker : Worker B}
    (told : worker.told = dispatch.worker.told)
    (earlier : ∀ entry ∈ worker.told, entry.1 < submitted) :
    Channels { dispatch with
      worker := worker, receivers := dispatch.receivers ++ [Receiver.fresh] }
      (submitted + 1) handled where
  sent := by
    rw [told]
    exact channels.sent
  receivers := by rw [List.length_append, channels.receivers, List.length_singleton]
  unsent := by
    rw [told]
    exact channels.unsent
  holds ticket receiver found := by
    change receiver.Holds (JobEvent.under ticket (worker.told.take dispatch.sent))
    by_cases before : ticket < dispatch.receivers.length
    · rw [told]
      exact channels.holds ticket receiver ((List.getElem?_append_left before).symm.trans found)
    · rw [List.getElem?_append_right (Nat.le_of_not_lt before), List.getElem?_singleton] at found
      have isFresh : receiver = Receiver.fresh := by
        split at found
        · exact (Option.some.inj found).symm
        · cases found
      rw [isFresh, JobEvent.under_eq_nil]
      · exact Receiver.holds_fresh
      · rintro entry mem rfl
        rw [channels.receivers] at before
        exact before (earlier entry (List.mem_of_mem_take mem))

/-- Events are told only when all before have been sent. -/
theorem tell (channels : dispatch.Channels submitted handled)
    (allSent : dispatch.sent = dispatch.worker.told.length) {worker : Worker B}
    {events : List JobEvent}
    (told : worker.told = dispatch.worker.told ++ events.map fun event => (handled, event)) :
    Channels { dispatch with worker := worker } submitted (handled + 1) where
  sent := by
    rw [told, List.length_append]
    exact channels.sent.trans (Nat.le_add_right _ _)
  receivers := channels.receivers
  unsent := by
    rw [told, allSent, List.drop_left]
    intro entry mem
    obtain ⟨event, _, rfl⟩ := List.mem_map.1 mem
    rfl
  holds ticket receiver found := by
    have same : Dispatch.sentTo { dispatch with worker := worker } ticket
        = dispatch.sentTo ticket := by
      simp only [sentTo, told]
      rw [List.take_append_of_le_length channels.sent]
    rw [same]
    exact channels.holds ticket receiver found

theorem send (channels : dispatch.Channels submitted handled) {ticket : Nat} {event : JobEvent}
    (next : dispatch.worker.told[dispatch.sent]? = some (ticket, event)) :
    Channels { dispatch.atReceiver ticket (Receiver.accept event) with
      sent := dispatch.sent + 1 } submitted handled := by
  obtain ⟨within, isNext⟩ := List.getElem?_eq_some_iff.1 next
  refine ⟨within, (List.length_modify _ _ _).trans channels.receivers, fun entry mem => ?_, ?_⟩
  · apply channels.unsent
    rw [List.drop_eq_getElem_cons within]
    exact List.mem_cons_of_mem _ mem
  · intro other changed found
    obtain ⟨receiver, before, rfl⟩ := exists_of_getElem?_atReceiver found
    have holds := channels.holds other receiver before
    have more : JobEvent.under other (dispatch.worker.told.take (dispatch.sent + 1))
        = dispatch.sentTo other ++ JobEvent.under other [(ticket, event)] := by
      rw [List.take_succ_eq_append_getElem within, isNext, JobEvent.under_append, sentTo]
    change Receiver.Holds (JobEvent.under other (dispatch.worker.told.take (dispatch.sent + 1))) _
    rw [more]
    split
    · next isOwn =>
      subst isOwn
      have own := JobEvent.under_own ticket [event]
      rw [List.map_singleton] at own
      rw [own]
      exact holds.accept event
    · next differs =>
      rw [JobEvent.under_eq_nil (by simpa using differs), List.append_nil]
      exact holds

end Channels

end Dispatch

/-! ## Finishing -/

namespace Worker

theorem told_finish (worker : Worker B) : worker.finish.told = worker.told := by
  unfold finish
  split <;> rfl

theorem queue_finish (worker : Worker B) : worker.finish.queue = worker.queue := by
  unfold finish
  split <;> rfl

theorem stopped_finish (worker : Worker B) : worker.finish.stopped = worker.stopped := by
  unfold finish
  split <;> rfl

/-- A worker that finishes disconnects. -/
theorem session_finish {worker : Worker B} (running : worker.stopped = false) :
    worker.finish.session = Step.finalState (Session.disconnect worker.session) := by
  unfold finish
  rw [running, Bool.false_or]
  split
  · next closed =>
    have disconnected : worker.session.handle = none := by
      simpa [Session.isConnected] using closed
    exact (Session.finalState_disconnect_of_disconnected disconnected).symm
  · rfl

end Worker

namespace Dispatch

/-- A worker with its handles and receivers has followed the requests that were submitted, by
the clocks of its moves, and has disconnected if it has finished. -/
structure Tracks (session : Session B) (requests : List Request) (clocks : List (Nat → Instant))
    (dispatch : Dispatch B) : Prop where
  follows : ∃ before : Worker B, before.Follows session requests clocks ∧
    dispatch.worker = if dispatch.ended then before.finish else before
  channels : dispatch.Channels requests.length clocks.length
  closed : dispatch.ended = true →
    dispatch.handles = 0 ∧ dispatch.worker.queue = [] ∧
      dispatch.sent = dispatch.worker.told.length

namespace Tracks

variable {session : Session B} {requests : List Request} {clocks : List (Nat → Instant)}
  {dispatch after : Dispatch B}

theorem start (session : Session B) : Tracks session [] [] (Dispatch.start session) where
  follows := ⟨_, Worker.Follows.start session, rfl⟩
  channels := ⟨le_refl _, rfl, nofun, nofun⟩
  closed := nofun

theorem follows_of_running (tracks : Tracks session requests clocks dispatch)
    (running : dispatch.ended = false) : dispatch.worker.Follows session requests clocks := by
  obtain ⟨before, follows, isBefore⟩ := tracks.follows
  rw [running] at isBefore
  rw [isBefore]
  exact follows

theorem running_of_held (tracks : Tracks session requests clocks dispatch)
    (held : 0 < dispatch.handles) : dispatch.ended = false := by
  cases ended : dispatch.ended with
  | false => rfl
  | true => exact absurd (tracks.closed ended).1 held.ne'

/-- A move that is none of the worker's own on its queue leaves what the worker has done. -/
theorem of_worker_eq (tracks : Tracks session requests clocks dispatch)
    (same : after.worker = dispatch.worker) (sameEnd : after.ended = dispatch.ended)
    (channels : after.Channels requests.length clocks.length)
    (closed : dispatch.ended = true →
      after.handles = dispatch.handles ∧ after.sent = dispatch.sent) :
    Tracks session requests clocks after where
  follows := by
    rw [same, sameEnd]
    exact tracks.follows
  channels := channels
  closed ended := by
    rw [sameEnd] at ended
    rw [same, (closed ended).1, (closed ended).2]
    exact tracks.closed ended

/-- While there is a handle, their number does not matter. -/
theorem withHandles (tracks : Tracks session requests clocks dispatch)
    (held : 0 < dispatch.handles) (handles : Nat) :
    Tracks session requests clocks { dispatch with handles := handles } := by
  obtain ⟨sent, receivers, unsent, holds⟩ := tracks.channels
  refine tracks.of_worker_eq rfl rfl ⟨sent, receivers, unsent, holds⟩ fun ended => ?_
  exact absurd ((tracks.running_of_held held).symm.trans ended) Bool.false_ne_true

theorem submit (tracks : Tracks session requests clocks dispatch) (request : Request)
    (held : 0 < dispatch.handles) (sound : dispatch.worker.stopped = false)
    (moved : dispatch.move? (.submit request) = some after) :
    Tracks session (requests ++ [request]) clocks after := by
  have running := tracks.running_of_held held
  have follows := tracks.follows_of_running running
  simp only [move?, if_pos held, Worker.submit_of_running sound request] at moved
  cases moved
  refine ⟨⟨_, follows.submit request, ?_⟩, ?_, fun ended => ?_⟩
  · rw [running]
    rfl
  · rw [List.length_append, List.length_singleton]
    refine tracks.channels.submit rfl fun entry mem => ?_
    exact lt_of_lt_of_le (follows.lt_of_mem_told mem) follows.behind
  · exact absurd (running.symm.trans ended) Bool.false_ne_true

theorem handle (tracks : Tracks session requests clocks dispatch) (clock : Nat → Instant)
    (atQueue : dispatch.AtQueue) (waiting : dispatch.worker.queue ≠ [])
    (sound : (dispatch.worker.step clock fun _ => false).stopped = false) :
    Tracks session requests (clocks ++ [clock])
      { dispatch with worker := dispatch.worker.step clock fun _ => false } := by
  obtain ⟨running, unstopped, allSent⟩ := atQueue
  obtain ⟨follows, events, told⟩ :=
    (tracks.follows_of_running running).step clock unstopped waiting sound
  refine ⟨⟨_, follows, ?_⟩, ?_, fun ended => ?_⟩
  · rw [running]
    rfl
  · rw [List.length_append, List.length_singleton]
    exact tracks.channels.tell allSent told
  · exact absurd (running.symm.trans ended) Bool.false_ne_true

theorem finish (tracks : Tracks session requests clocks dispatch) (atQueue : dispatch.AtQueue)
    (empty : dispatch.worker.queue = []) (unheld : dispatch.handles = 0) :
    Tracks session requests clocks
      { dispatch with worker := dispatch.worker.finish, ended := true } where
  follows := ⟨_, tracks.follows_of_running atQueue.1, rfl⟩
  channels := by
    obtain ⟨sent, receivers, unsent, holds⟩ := tracks.channels
    refine ⟨?_, receivers, ?_, ?_⟩
    · rwa [Worker.told_finish]
    · rwa [Worker.told_finish]
    · unfold sentTo
      rwa [Worker.told_finish]
  closed _ := by
    rw [Worker.queue_finish, Worker.told_finish]
    exact ⟨unheld, empty, atQueue.2.2⟩

/-- One move more. -/
theorem move (tracks : Tracks session requests clocks dispatch) {move : Move}
    (moved : dispatch.move? move = some after) (sound : dispatch.worker.stopped = false)
    (soundAfter : after.worker.stopped = false) :
    Tracks session (requests ++ move.request?.toList) (clocks ++ move.clock?.toList) after := by
  have unasked (same : Tracks session requests clocks after) :
      Tracks session (requests ++ []) (clocks ++ []) after := by
    rwa [List.append_nil, List.append_nil]
  cases move with
  | clone =>
    obtain ⟨held, moved⟩ := Option.ite_none_right_eq_some.1 moved
    cases moved
    exact unasked (tracks.withHandles held _)
  | drop =>
    obtain ⟨held, moved⟩ := Option.ite_none_right_eq_some.1 moved
    cases moved
    exact unasked (tracks.withHandles held _)
  | submit request =>
    have submitted := tracks.submit request (Option.ite_none_right_eq_some.1 moved).1 sound moved
    rw [← List.append_nil clocks] at submitted
    exact submitted
  | take ticket =>
    cases moved
    exact unasked (tracks.of_worker_eq rfl rfl
      (tracks.channels.atReceiver ticket Receiver.Holds.take) fun _ => ⟨rfl, rfl⟩)
  | leave ticket =>
    cases moved
    exact unasked (tracks.of_worker_eq rfl rfl
      (tracks.channels.atReceiver ticket Receiver.Holds.leave) fun _ => ⟨rfl, rfl⟩)
  | handle clock =>
    obtain ⟨⟨atQueue, waiting⟩, moved⟩ := Option.ite_none_right_eq_some.1 moved
    cases moved
    have handled := tracks.handle clock atQueue waiting soundAfter
    rw [← List.append_nil requests] at handled
    exact handled
  | send =>
    simp only [move?] at moved
    split at moved
    · next ticket event next =>
      cases moved
      refine unasked (tracks.of_worker_eq rfl rfl (tracks.channels.send next) fun ended => ?_)
      -- A worker that has finished has sent all events before.
      rw [(tracks.closed ended).2.2, List.getElem?_eq_none (le_refl _)] at next
      cases next
    · cases moved
  | finish =>
    obtain ⟨⟨atQueue, empty, unheld⟩, moved⟩ := Option.ite_none_right_eq_some.1 moved
    cases moved
    exact unasked (tracks.finish atQueue empty unheld)

end Tracks

end Dispatch

end KeyConsole
