import KeyConsole.Driver.Worker
import KeyConsole.Proofs.Step.Breakdown
import Mathlib.Data.List.Induction
import Mathlib.Order.Nat

/-!
# The queue of a worker

A worker does with the jobs of its queue what its session does with the requests when it is
given one after the other: it tells the same events, and comes to the same session.  This
holds at any time, with the requests that have been submitted and the clocks of those that
have been handled.
-/

namespace KeyConsole

variable {B : Backend}

/-- How a request ends, with what has been emitted for it. -/
abbrev Outcome (B : Backend) :=
  EStateM.Result (Halt Error) (Running B) Response

/-! ## Requests one after the other -/

namespace Session

/-- Handle a request, by a clock, while nobody interrupts. -/
def ask (session : Session B) (asked : (Nat → Instant) × Request) : Outcome B :=
  session.handleRequest asked.1 (fun _ => false) asked.2

/-- The session behind a request. -/
def afterAsking (session : Session B) (asked : (Nat → Instant) × Request) : Session B :=
  (Step.finalState (session.ask asked)).session

/-- How requests end that are handled one after the other. -/
def outcomes (session : Session B) : List ((Nat → Instant) × Request) → List (Outcome B)
  | [] => []
  | asked :: others => session.ask asked :: outcomes (session.afterAsking asked) others

/-- The session behind requests that are handled one after the other. -/
def afterEach (session : Session B) (requests : List ((Nat → Instant) × Request)) : Session B :=
  requests.foldl afterAsking session

theorem afterEach_concat (session : Session B) (requests : List ((Nat → Instant) × Request))
    (asked : (Nat → Instant) × Request) :
    session.afterEach (requests ++ [asked]) = (session.afterEach requests).afterAsking asked := by
  rw [afterEach, List.foldl_append]
  rfl

theorem outcomes_concat (session : Session B) (requests : List ((Nat → Instant) × Request))
    (asked : (Nat → Instant) × Request) :
    session.outcomes (requests ++ [asked])
      = session.outcomes requests ++ [(session.afterEach requests).ask asked] := by
  induction requests generalizing session with
  | nil => rfl
  | cons first requests ih =>
    rw [List.cons_append, outcomes, ih]
    rfl

@[simp]
theorem length_outcomes (session : Session B) (requests : List ((Nat → Instant) × Request)) :
    (session.outcomes requests).length = requests.length := by
  induction requests generalizing session with
  | nil => rfl
  | cons asked requests ih => rw [outcomes, List.length_cons, List.length_cons, ih]

end Session

/-! ## The events of a request -/

/-- The result that an event brings. -/
def Event.output? : Event → Option CommandResult
  | progress _ => none
  | output result => some result

namespace Outcome

/-- The outputs of a request. -/
def outputs (outcome : Outcome B) : List CommandResult :=
  (Step.finalState outcome).events.filterMap Event.output?

/-- The events that are told about a request. -/
def report : Outcome B → List JobEvent
  | .ok response running => JobEvent.complete running.events (.ok response)
  | .error (.refused cause) running => JobEvent.complete running.events (.error cause)
  | .error .broken running => JobEvent.begun running.events

end Outcome

namespace Worker

theorem collect_relay (last : Nat) (events : List Event) (progress : List Nat)
    (outputs : List CommandResult) :
    ∃ told, ∀ rest, collect progress outputs (JobEvent.relay last events ++ rest)
      = collect told (outputs ++ events.filterMap Event.output?) rest := by
  induction events generalizing last progress outputs with
  | nil => exact ⟨progress, fun rest => by simp [JobEvent.relay]⟩
  | cons event events ih =>
    cases event with
    | progress percent =>
      rw [JobEvent.relay]
      split
      · exact ih _ (progress ++ [min percent 100]) outputs
      · exact ih last progress outputs
    | output result =>
      obtain ⟨told, collected⟩ := ih last progress (outputs ++ [result])
      refine ⟨told, fun rest => (collected rest).trans ?_⟩
      rw [List.append_assoc]
      rfl

theorem collect_complete (events : List Event) (result : Except Error Response) :
    ∃ progress, collect [] [] (JobEvent.complete events result)
      = .ok ⟨progress, events.filterMap Event.output?, result⟩ := by
  obtain ⟨told, collected⟩ := collect_relay 0 events [0] []
  have collected := collected
    ((if JobEvent.reached 0 events < 100 then [.progress 100] else []) ++ [.finished result])
  rw [← List.append_assoc] at collected
  by_cases under : JobEvent.reached 0 events < 100
  · refine ⟨told ++ [100], ?_⟩
    rw [if_pos under] at collected
    rw [JobEvent.complete, if_pos under]
    exact collected
  · refine ⟨told, ?_⟩
    rw [if_neg under] at collected
    rw [JobEvent.complete, if_neg under]
    exact collected

/-- Who collects the events of a request that is answered has its outputs and its answer. -/
theorem collect_report {outcome : Outcome B} (answered : ¬Step.BreaksDown outcome) :
    ∃ progress result, Step.answer? outcome = some result ∧
      collect [] [] outcome.report = .ok ⟨progress, outcome.outputs, result⟩ := by
  cases outcome with
  | ok response running =>
    obtain ⟨progress, collected⟩ := collect_complete running.events (.ok response)
    exact ⟨progress, .ok response, rfl, collected⟩
  | error halt running =>
    cases halt with
    | refused cause =>
      obtain ⟨progress, collected⟩ := collect_complete running.events (.error cause)
      exact ⟨progress, .error cause, rfl, collected⟩
    | broken => exact absurd Step.breaksDown_broken answered

end Worker

namespace JobEvent

/-- The events that are told under a ticket. -/
def under (ticket : Nat) (told : List (Nat × JobEvent)) : List JobEvent :=
  told.filterMap fun (owner, event) => if owner = ticket then some event else none

theorem under_append (ticket : Nat) (told more : List (Nat × JobEvent)) :
    under ticket (told ++ more) = under ticket told ++ under ticket more :=
  List.filterMap_append

theorem under_eq_nil {ticket : Nat} {told : List (Nat × JobEvent)}
    (others : ∀ entry ∈ told, entry.1 ≠ ticket) : under ticket told = [] := by
  rw [under, List.filterMap_eq_nil_iff]
  exact fun entry mem => if_neg (others entry mem)

theorem under_own (ticket : Nat) (events : List JobEvent) :
    under ticket (events.map fun event => (ticket, event)) = events := by
  induction events with
  | nil => rfl
  | cons event events ih =>
    have first : under ticket ((ticket, event) :: events.map fun event => (ticket, event))
        = event :: under ticket (events.map fun event => (ticket, event)) :=
      List.filterMap_cons_some (if_pos rfl)
    rw [List.map_cons, first, ih]

/-- All that is told about requests, one after the other, with their tickets. -/
def log (outcomes : List (Outcome B)) : List (Nat × JobEvent) :=
  (outcomes.mapIdx fun ticket outcome => outcome.report.map fun event => (ticket, event)).flatten

theorem log_concat (outcomes : List (Outcome B)) (outcome : Outcome B) :
    log (outcomes ++ [outcome])
      = log outcomes ++ outcome.report.map fun event => (outcomes.length, event) := by
  rw [log, List.mapIdx_concat, List.flatten_concat]
  rfl

/-- What is told is told about one of the requests. -/
theorem lt_of_mem_log {outcomes : List (Outcome B)} {entry : Nat × JobEvent}
    (mem : entry ∈ log outcomes) : entry.1 < outcomes.length := by
  rw [log, List.mem_flatten] at mem
  obtain ⟨events, told, mem⟩ := mem
  obtain ⟨ticket, within, rfl⟩ := List.mem_mapIdx.1 told
  obtain ⟨event, _, rfl⟩ := List.mem_map.1 mem
  exact within

/-- Under its ticket all is told about a request, and nothing else. -/
theorem under_log (ticket : Nat) (outcomes : List (Outcome B)) :
    under ticket (log outcomes) = (outcomes[ticket]?.map Outcome.report).getD [] := by
  induction outcomes using List.reverseRecOn with
  | nil => rfl
  | append_singleton outcomes outcome ih =>
    rw [log_concat, under_append, ih]
    by_cases isLast : ticket = outcomes.length
    · subst isLast
      rw [under_own, List.getElem?_concat_length, List.getElem?_eq_none (le_refl _)]
      rfl
    · have elsewhere :
          under ticket (outcome.report.map fun event => (outcomes.length, event)) = [] := by
        apply under_eq_nil
        intro entry mem
        obtain ⟨event, _, rfl⟩ := List.mem_map.1 mem
        exact fun same => isLast same.symm
      rw [elsewhere, List.append_nil, List.getElem?_append]
      split
      · rfl
      · have beyond : outcomes.length ≤ ticket := by omega
        rw [List.getElem?_eq_none beyond, List.getElem?_eq_none (by simp; omega)]

end JobEvent

/-! ## A worker and its requests -/

namespace Worker

theorem submit_of_running {worker : Worker B} (running : worker.stopped = false)
    (request : Request) :
    worker.submit request
      = .ok (worker.nextTicket,
        { worker with
          queue := worker.queue ++ [⟨worker.nextTicket, request⟩]
          nextTicket := worker.nextTicket + 1 }) :=
  if_neg (Bool.eq_false_iff.1 running)

theorem runJob_eq (clock : Nat → Instant) (worker : Worker B) (job : Job) :
    worker.runJob clock (fun _ => false) job
      = { worker with
          session := worker.session.afterAsking (clock, job.request)
          told := worker.told ++
            (worker.session.ask (clock, job.request)).report.map fun event => (job.ticket, event)
          stopped := worker.stopped ||
            (Step.answer? (worker.session.ask (clock, job.request))).isNone } := by
  unfold runJob Session.afterAsking Session.ask
  split <;> next ended =>
    simp [tell, ended, Step.finalState, Step.answer?, Outcome.report]

theorem zip_concat_left {α β : Type} {xs : List α} {ys : List β} (x : α)
    (shorter : xs.length < ys.length) :
    (xs ++ [x]).zip ys = xs.zip ys ++ [(x, ys[xs.length])] := by
  induction xs generalizing ys with
  | nil =>
    cases ys with
    | nil => cases shorter
    | cons y ys => simp
  | cons first xs ih =>
    cases ys with
    | nil => cases shorter
    | cons y ys =>
      have rest := ih (Nat.lt_of_succ_lt_succ shorter)
      simpa using rest

theorem zip_append_right {α β : Type} {xs : List α} {ys : List β} (more : List β)
    (within : xs.length ≤ ys.length) : xs.zip (ys ++ more) = xs.zip ys := by
  induction xs generalizing ys with
  | nil => simp
  | cons first xs ih =>
    cases ys with
    | nil => cases within
    | cons y ys =>
      have rest := ih (Nat.le_of_succ_le_succ within)
      simpa using rest

/-- A worker to which requests were submitted, and which has handled some of them by
clocks, has done as its session does with requests one after the other. -/
structure Follows (session : Session B) (requests : List Request) (clocks : List (Nat → Instant))
    (worker : Worker B) : Prop where
  behind : clocks.length ≤ requests.length
  nextTicket : worker.nextTicket = requests.length
  /-- What waits are the requests that are not handled yet, in their order. -/
  queue : worker.queue = (requests.mapIdx Job.mk).drop clocks.length
  reached : worker.session = session.afterEach (clocks.zip requests)
  told : worker.told = JobEvent.log (session.outcomes (clocks.zip requests))
  answered : ∀ outcome ∈ session.outcomes (clocks.zip requests), ¬Step.BreaksDown outcome

namespace Follows

variable {session : Session B} {requests : List Request} {clocks : List (Nat → Instant)}
  {worker : Worker B}

theorem start (session : Session B) : Follows session [] [] (Worker.start session) where
  behind := le_refl _
  nextTicket := rfl
  queue := rfl
  reached := rfl
  told := rfl
  answered _ mem := absurd mem List.not_mem_nil

theorem length_handled (follows : Follows session requests clocks worker) :
    (session.outcomes (clocks.zip requests)).length = clocks.length := by
  rw [Session.length_outcomes, List.length_zip, Nat.min_eq_left follows.behind]

/-- What is told is about requests that have been handled. -/
theorem lt_of_mem_told (follows : Follows session requests clocks worker)
    {entry : Nat × JobEvent} (mem : entry ∈ worker.told) : entry.1 < clocks.length := by
  rw [follows.told] at mem
  exact (JobEvent.lt_of_mem_log mem).trans_eq follows.length_handled

theorem queue_eq_nil_iff (follows : Follows session requests clocks worker) :
    worker.queue = [] ↔ clocks.length = requests.length := by
  rw [follows.queue, List.drop_eq_nil_iff, List.length_mapIdx]
  exact ⟨follows.behind.antisymm, fun same => same.ge⟩

theorem submit (follows : Follows session requests clocks worker) (request : Request) :
    Follows session (requests ++ [request]) clocks
      { worker with
        queue := worker.queue ++ [⟨worker.nextTicket, request⟩]
        nextTicket := worker.nextTicket + 1 } := by
  have same := zip_append_right [request] follows.behind
  constructor
  · exact follows.behind.trans (by simp)
  · simp [follows.nextTicket]
  · rw [List.mapIdx_concat, List.drop_append_of_le_length (by simpa using follows.behind),
      follows.queue, follows.nextTicket]
  · rw [same]
    exact follows.reached
  · rw [same]
    exact follows.told
  · rw [same]
    exact follows.answered

/-- The worker handles the next request as its session does behind those before. -/
theorem step (follows : Follows session requests clocks worker) (clock : Nat → Instant)
    (running : worker.stopped = false) (waiting : worker.queue ≠ [])
    (sound : (worker.step clock fun _ => false).stopped = false) :
    Follows session requests (clocks ++ [clock]) (worker.step clock fun _ => false) ∧
      ∃ events : List JobEvent, (worker.step clock fun _ => false).told
        = worker.told ++ events.map fun event => (clocks.length, event) := by
  have shorter : clocks.length < requests.length := by
    refine Nat.lt_of_le_of_ne follows.behind fun same => ?_
    exact waiting (follows.queue_eq_nil_iff.2 same)
  have next : worker.queue = ⟨clocks.length, requests[clocks.length]⟩ ::
      (requests.mapIdx Job.mk).drop (clocks.length + 1) := by
    rw [follows.queue, List.drop_eq_getElem_cons (by simpa using shorter), List.getElem_mapIdx]
  have stepped : (worker.step clock fun _ => false)
      = runJob clock (fun _ => false)
          { worker with queue := (requests.mapIdx Job.mk).drop (clocks.length + 1) }
          ⟨clocks.length, requests[clocks.length]⟩ := by
    simp [Worker.step, running, next]
  rw [runJob_eq] at stepped
  rw [stepped] at sound ⊢
  have answers := (Bool.or_eq_false_iff.1 sound).2
  have handled := zip_concat_left clock shorter
  refine ⟨⟨?_, follows.nextTicket, ?_, ?_, ?_, ?_⟩, _, rfl⟩
  · rwa [List.length_append]
  · simp
  · rw [handled, Session.afterEach_concat, ← follows.reached]
  · rw [handled, Session.outcomes_concat, JobEvent.log_concat, follows.length_handled,
      ← follows.reached, ← follows.told]
  · rw [handled, Session.outcomes_concat, ← follows.reached]
    intro outcome mem
    rcases List.mem_append.1 mem with before | last
    · exact follows.answered outcome before
    · rw [List.mem_singleton.1 last]
      intro broken
      rw [Step.BreaksDown] at broken
      simp [broken] at answers

end Follows

end Worker

end KeyConsole
