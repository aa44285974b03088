import KeyConsole.Driver.Handle

/-!
# Workers

A worker owns a session and handles the jobs of a queue one at a time, in the
order in which they came.  Each job has a ticket, under which its events can
be read: progress from 0 to 100 that only rises, the outputs, and in the end
the result.  A job that breaks down stops the worker, and the jobs behind it
are never begun.
-/

namespace KeyConsole

/-- What is told about a job. -/
inductive JobEvent where
  | progress (percent : Nat)
  | output (result : CommandResult)
  /-- The last event of a job. -/
  | finished (result : Except Error Response)

namespace JobEvent

/-- The events of a job for those of its driver, when `last` is the highest
progress told so far: outputs are passed on, and progress when it is higher,
but never above 100. -/
def relay (last : Nat) : List Event → List JobEvent
  | [] => []
  | .progress percent :: events =>
    if last < min percent 100 then
      progress (min percent 100) :: relay (min percent 100) events
    else relay last events
  | .output result :: events => output result :: relay last events

/-- The highest progress told after the events of the driver. -/
def reached (last : Nat) : List Event → Nat
  | [] => last
  | .progress percent :: events => reached (max last (min percent 100)) events
  | .output _ :: events => reached last events

/-- The events of a job that breaks down. -/
def begun (events : List Event) : List JobEvent :=
  progress 0 :: relay 0 events

/-- The events of a job that comes to its end. -/
def complete (events : List Event) (result : Except Error Response) : List JobEvent :=
  begun events ++ (if reached 0 events < 100 then [progress 100] else []) ++ [finished result]

end JobEvent

/-- A request with the ticket under which its events are told. -/
structure Job where
  ticket : Nat
  request : Request

/-- A worker. -/
structure Worker (B : Backend) where
  session : Session B
  /-- The jobs that wait, the next one first. -/
  queue : List Job
  /-- The ticket of the next job. -/
  nextTicket : Nat
  /-- All events so far with the tickets of their jobs, the oldest first. -/
  told : List (Nat × JobEvent)
  /-- Whether a job has broken down. -/
  stopped : Bool

namespace Worker

variable {B : Backend}

/-- A worker without jobs. -/
def start (session : Session B) : Worker B where
  session := session
  queue := []
  nextTicket := 0
  told := []
  stopped := false

/-- Put a request into the queue; the ticket of its job is returned. -/
def submit (worker : Worker B) (request : Request) : Except Error (Nat × Worker B) :=
  if worker.stopped then .error (.connectionFailed "driver worker has stopped")
  else
    .ok (worker.nextTicket,
      { worker with
        queue := worker.queue ++ [⟨worker.nextTicket, request⟩]
        nextTicket := worker.nextTicket + 1 })

/-- Tell the events of a job. -/
def tell (worker : Worker B) (ticket : Nat) (events : List JobEvent) : Worker B :=
  { worker with told := worker.told ++ events.map fun event => (ticket, event) }

/-- Handle one job. -/
def runJob (clock : Nat → Instant) (raises : Nat → Bool) (worker : Worker B) (job : Job) :
    Worker B :=
  match worker.session.handleRequest clock raises job.request with
  | .ok response running =>
    ({ worker with session := running.session }).tell job.ticket
      (JobEvent.complete running.events (.ok response))
  | .error (.refused cause) running =>
    ({ worker with session := running.session }).tell job.ticket
      (JobEvent.complete running.events (.error cause))
  | .error .broken running =>
    ({ worker with session := running.session, stopped := true }).tell job.ticket
      (JobEvent.begun running.events)

/-- Handle the next job of the queue, if there is one and the worker has not
stopped. -/
def step (clock : Nat → Instant) (raises : Nat → Bool) (worker : Worker B) : Worker B :=
  if worker.stopped then worker
  else
    match worker.queue with
    | [] => worker
    | job :: queue => runJob clock raises { worker with queue := queue } job

/-- Handle jobs in turn, one for each clock. -/
def runAll (raises : Nat → Bool) (worker : Worker B) (clocks : List (Nat → Instant)) : Worker B :=
  clocks.foldl (fun worker clock => worker.step clock raises) worker

/-- Raise the interrupt flag. -/
def interrupt (worker : Worker B) : Worker B :=
  { worker with session := { worker.session with interrupted := true } }

/-- The events told under a ticket. -/
def inbox (worker : Worker B) (ticket : Nat) : List JobEvent :=
  worker.told.filterMap fun (owner, event) => if owner = ticket then some event else none

/-- What a job has told, from its first event to its result. -/
structure Completion where
  progress : List Nat
  outputs : List CommandResult
  result : Except Error Response

/-- Put together the events of a job.  Without a result, the worker has
stopped. -/
def collect (progress : List Nat) (outputs : List CommandResult) :
    List JobEvent → Except Error Completion
  | [] => .error (.connectionFailed "driver worker stopped before finishing the request")
  | .progress percent :: events => collect (progress ++ [percent]) outputs events
  | .output result :: events => collect progress (outputs ++ [result]) events
  | .finished result :: _ => .ok ⟨progress, outputs, result⟩

/-- Submit a request to a worker whose queue is empty, and wait for its end. -/
def call (clock : Nat → Instant) (worker : Worker B) (request : Request) :
    Except Error Completion × Worker B :=
  match worker.submit request with
  | .error cause => (.error cause, worker)
  | .ok (ticket, worker) =>
    let worker := worker.step clock fun _ => false
    (collect [] [] (worker.inbox ticket), worker)

/-- What the worker does when no more jobs can come: it disconnects. -/
def finish (worker : Worker B) : Worker B :=
  if worker.stopped || !worker.session.isConnected then worker
  else { worker with session := Step.finalState (Session.disconnect worker.session) }

end Worker

end KeyConsole
