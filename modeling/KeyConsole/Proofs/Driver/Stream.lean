import KeyConsole.Backend.Memory
import KeyConsole.Proofs.Driver.Queue
import KeyConsole.Proofs.Driver.Script

/-!
# The stream of a job

Whatever a driver emits for a request, what is told about the job begins with progress 0,
rises from there, comes to 100 once, and ends with the result.  The outputs are all told in
their places, and progress is told when it is higher than all that has been told before.  A
script that is run to its end reports rising progress itself, up to 100.
-/

namespace KeyConsole

/-- The progress that an event of a driver reports. -/
def Event.progress? : Event → Option Nat
  | progress percent => some percent
  | output _ => none

namespace JobEvent

/-- The progress that an event tells. -/
def progress? : JobEvent → Option Nat
  | progress percent => some percent
  | _ => none

/-- The output that an event tells. -/
def output? : JobEvent → Option CommandResult
  | output result => some result
  | _ => none

/-- The result that an event tells. -/
def result? : JobEvent → Option (Except Error Response)
  | finished result => some result
  | _ => none

/-- What is told of the events of a driver behind progress that has been sent: outputs are
passed on, and progress, up to 100, just when it is above everything sent before. -/
inductive Forwards : List Nat → List Event → List JobEvent → Prop
  | nothing (sent : List Nat) : Forwards sent [] []
  | output {sent : List Nat} {events : List Event} {told : List JobEvent}
      (result : CommandResult) (rest : Forwards sent events told) :
      Forwards sent (.output result :: events) (output result :: told)
  | forwarded {sent : List Nat} {percent : Nat} {events : List Event} {told : List JobEvent}
      (above : ∀ earlier ∈ sent, earlier < min percent 100)
      (rest : Forwards (sent ++ [min percent 100]) events told) :
      Forwards sent (.progress percent :: events) (progress (min percent 100) :: told)
  | withheld {sent : List Nat} {percent earlier : Nat} {events : List Event}
      {told : List JobEvent} (mem : earlier ∈ sent) (reached : min percent 100 ≤ earlier)
      (rest : Forwards sent events told) : Forwards sent (.progress percent :: events) told

/-- The stream of a job whose driver emits events and comes to a result. -/
structure IsStream (events : List Event) (result : Except Error Response)
    (stream : List JobEvent) : Prop where
  /-- Progress 100 is made up for if it has not been forwarded. -/
  parts : ∃ forwarded closing, Forwards [0] events forwarded ∧
    (closing = [] ∨ closing = [progress 100]) ∧
      stream = progress 0 :: forwarded ++ closing ++ [finished result]
  outputs : stream.filterMap output? = events.filterMap Event.output?
  ascending : (stream.filterMap progress?).Pairwise (· < ·)
  bounded : ∀ percent ∈ stream.filterMap progress?, percent ≤ 100
  full : (stream.filterMap progress?).count 100 = 1
  finished : stream.filterMap result? = [result]

/-! ## What is forwarded -/

variable {events : List Event} {told : List JobEvent} {sent : List Nat} {last : Nat}

/-- The highest progress stands for all that has been sent. -/
theorem forwards_relay (mem : last ∈ sent) (highest : ∀ earlier ∈ sent, earlier ≤ last) :
    Forwards sent events (relay last events) := by
  induction events generalizing sent last with
  | nil => exact .nothing sent
  | cons event events ih =>
    cases event with
    | output result => exact .output result (ih mem highest)
    | progress percent =>
      rw [relay]
      split
      · next above =>
        have still : ∀ earlier ∈ sent ++ [min percent 100], earlier ≤ min percent 100 := by
          intro earlier memToo
          rw [List.mem_append, List.mem_singleton] at memToo
          rcases memToo with memToo | rfl
          · exact Nat.le_of_lt (Nat.lt_of_le_of_lt (highest earlier memToo) above)
          · exact Nat.le_refl _
        apply Forwards.forwarded
        · exact fun earlier memToo => Nat.lt_of_le_of_lt (highest earlier memToo) above
        · exact ih (List.mem_append_right _ List.mem_cons_self) still
      · next reached => exact .withheld mem (Nat.not_lt.1 reached) (ih mem highest)

theorem Forwards.outputs_eq (forwards : Forwards sent events told) :
    told.filterMap output? = events.filterMap Event.output? := by
  induction forwards with
  | nothing => rfl
  | output result _ ih => exact congrArg (result :: ·) ih
  | forwarded _ _ ih => exact ih
  | withheld _ _ _ ih => exact ih

theorem Forwards.results_eq (forwards : Forwards sent events told) :
    told.filterMap result? = [] := by
  induction forwards with
  | nothing => rfl
  | output _ _ ih => exact ih
  | forwarded _ _ ih => exact ih
  | withheld _ _ _ ih => exact ih

/-- Forwarded progress goes on rising from what has been sent. -/
theorem Forwards.ascending (forwards : Forwards sent events told)
    (rising : sent.Pairwise (· < ·)) : (sent ++ told.filterMap progress?).Pairwise (· < ·) := by
  induction forwards with
  | nothing sent => rwa [List.filterMap_nil, List.append_nil]
  | output _ _ ih => exact ih rising
  | withheld _ _ _ ih => exact ih rising
  | @forwarded sent percent events told above _ ih =>
    have still : (sent ++ [min percent 100]).Pairwise (· < ·) := by
      rw [List.pairwise_append]
      constructor
      · exact rising
      constructor
      · exact List.pairwise_singleton _ _
      · intro earlier mem next isNext
        rw [List.mem_singleton.1 isNext]
        exact above earlier mem
    have rest := ih still
    rwa [List.append_assoc] at rest

theorem Forwards.bounded (forwards : Forwards sent events told) :
    ∀ percent ∈ told.filterMap progress?, percent ≤ 100 := by
  induction forwards with
  | nothing => exact List.forall_mem_nil _
  | output _ _ ih => exact ih
  | withheld _ _ _ ih => exact ih
  | forwarded _ _ ih => exact List.forall_mem_cons.2 ⟨Nat.min_le_right _ _, ih⟩

/-- What is reached is the last progress told. -/
theorem getLast?_relay (last : Nat) (events : List Event) :
    (last :: (relay last events).filterMap progress?).getLast? = some (reached last events) := by
  induction events generalizing last with
  | nil => rfl
  | cons event events ih =>
    cases event with
    | output result => exact ih last
    | progress percent =>
      rw [relay, reached]
      split
      · next above =>
        rw [Nat.max_eq_right (Nat.le_of_lt above), ← ih]
        rfl
      · next below =>
        rw [Nat.max_eq_left (Nat.not_lt.1 below)]
        exact ih last

theorem reached_append (last : Nat) (events more : List Event) :
    reached last (events ++ more) = reached (reached last events) more := by
  induction events generalizing last with
  | nil => rfl
  | cons event events ih => cases event <;> exact ih _

theorem relay_append (last : Nat) (events more : List Event) :
    relay last (events ++ more) = relay last events ++ relay (reached last events) more := by
  induction events generalizing last with
  | nil => rfl
  | cons event events ih =>
    cases event with
    | output result => exact congrArg (output result :: ·) (ih last)
    | progress percent =>
      rw [List.cons_append, relay, relay, reached]
      split
      · next above =>
        rw [Nat.max_eq_right (Nat.le_of_lt above), ih]
        rfl
      · next below =>
        rw [Nat.max_eq_left (Nat.not_lt.1 below)]
        exact ih last

theorem reached_le (le : last ≤ 100) : reached last events ≤ 100 := by
  induction events generalizing last with
  | nil => exact le
  | cons event events ih =>
    cases event with
    | output result => exact ih le
    | progress percent => exact ih (Nat.max_le.2 ⟨le, Nat.min_le_right _ _⟩)

/-! ## The whole stream -/

/-- A job is closed as if its driver reported progress 100 in the end. -/
theorem complete_eq (events : List Event) (result : Except Error Response) :
    complete events result
      = progress 0 :: relay 0 (events ++ [.progress 100]) ++ [finished result] := by
  rw [complete, begun, relay_append]
  rfl

/-- Whatever the driver emits, what is told is the stream of the job. -/
theorem isStream_complete (events : List Event) (result : Except Error Response) :
    IsStream events result (complete events result) := by
  have first : (0 : Nat) ∈ [0] := List.mem_cons_self
  have highest : ∀ earlier ∈ [0], earlier ≤ 0 := by simp
  have forwards : Forwards [0] (events ++ [.progress 100]) (relay 0 (events ++ [.progress 100])) :=
    forwards_relay first highest
  have rising : (0 :: (relay 0 (events ++ [.progress 100])).filterMap progress?).Pairwise (· < ·) :=
    forwards.ascending (List.pairwise_singleton _ _)
  have isFull : reached 0 (events ++ [.progress 100]) = 100 := by
    rw [reached_append]
    exact Nat.max_eq_right (reached_le (Nat.zero_le _))
  have told : (complete events result).filterMap progress?
      = 0 :: (relay 0 (events ++ [.progress 100])).filterMap progress? := by
    rw [complete_eq, List.filterMap_append]
    exact List.append_nil _
  constructor
  · have closing : relay (reached 0 events) [.progress 100] = [] ∨
        relay (reached 0 events) [.progress 100] = [progress 100] := by
      rw [relay]
      split
      · exact .inr rfl
      · exact .inl rfl
    refine ⟨_, _, forwards_relay first highest, closing, ?_⟩
    rw [complete_eq, relay_append]
    rfl
  · rw [complete_eq, List.filterMap_append, List.filterMap_cons_none rfl, forwards.outputs_eq,
      List.filterMap_append]
    exact (List.append_nil _).trans (List.append_nil _)
  · rwa [told]
  · rw [told]
    exact List.forall_mem_cons.2 ⟨Nat.zero_le _, forwards.bounded⟩
  · have mem : 100 ∈ 0 :: (relay 0 (events ++ [.progress 100])).filterMap progress? := by
      apply List.mem_of_getLast?
      rw [getLast?_relay, isFull]
    rw [told, List.Nodup.count (rising.imp fun less => Nat.ne_of_lt less), if_pos mem]
  · rw [complete_eq, List.filterMap_append, List.filterMap_cons_none rfl, forwards.results_eq]
    rfl

end JobEvent

/-! ## Jobs of a worker -/

variable {B : Backend} {clock : Nat → Instant} {raises : Nat → Bool}

/-- A worker whose job is answered tells its stream. -/
theorem Worker.told_runJob {worker : Worker B} {job : Job} {result : Except Error Response}
    (answered : Step.answer? (worker.session.handleRequest clock raises job.request)
      = some result) :
    (worker.runJob clock raises job).told
      = worker.told ++
        (JobEvent.complete
          (Step.finalState (worker.session.handleRequest clock raises job.request)).events
            result).map fun event => (job.ticket, event) := by
  unfold runJob
  cases ended : worker.session.handleRequest clock raises job.request with
  | ok response running =>
    rw [ended] at answered
    cases answered
    rfl
  | error halt running =>
    rw [ended] at answered
    cases halt with
    | refused cause =>
      cases answered
      rfl
    | broken => cases answered

/-! ## Progress of a script -/

namespace Running

theorem percent_le {done total : Nat} (le : done ≤ total) : percent done total ≤ 100 := by
  apply Nat.div_le_of_le_mul
  rw [Nat.mul_comm total]
  exact Nat.mul_comm done 100 ▸ Nat.mul_le_mul_left 100 le

theorem percent_mono {done later : Nat} (total : Nat) (le : done ≤ later) :
    percent done total ≤ percent later total :=
  Nat.div_le_div_right (Nat.mul_le_mul_right 100 le)

theorem percent_self {total : Nat} (positive : 0 < total) : percent total total = 100 :=
  Nat.mul_div_cancel_left 100 positive

theorem progress_lineEvents (total done : Nat) (results : List CommandResult) :
    (lineEvents total done results).filterMap Event.progress?
      = (List.range' (done + 1) results.length).map (percent · total) := by
  induction results generalizing done with
  | nil => rfl
  | cons result results ih => exact congrArg (percent (done + 1) total :: ·) (ih (done + 1))

/-- What is reported while a script of some lines is run to its end. -/
structure Advances (lines : Nat) (percents : List Nat) : Prop where
  length : percents.length = lines
  rising : percents.Pairwise (· ≤ ·)
  bounded : ∀ percent ∈ percents, percent ≤ 100
  full : percents.getLast? = some 100

theorem advances_lineEvents {lines : Nat} {results : List CommandResult} (positive : 0 < lines)
    (length : results.length = lines) :
    Advances lines ((lineEvents lines 0 results).filterMap Event.progress?) := by
  rw [progress_lineEvents, length]
  constructor
  · rw [List.length_map, List.length_range']
  · rw [List.pairwise_map]
    exact List.pairwise_le_range'.imp (percent_mono lines)
  · intro percent mem
    rcases List.mem_map.1 mem with ⟨done, inside, rfl⟩
    rw [List.mem_range'_1] at inside
    exact percent_le (by omega)
  · rw [List.getLast?_map, List.getLast?_range', if_neg (Nat.ne_of_gt positive)]
    have isLast : 0 + 1 + lines - 1 = lines := by omega
    rw [isLast, Option.map_some, percent_self positive]

/-- A script that is executed has reported progress for each of its lines. -/
theorem advances_of_executed {session : Session B} {script : String} {response : Response}
    {running : Running B}
    (executed : session.handleRequest clock raises (.execute script) = .ok response running) :
    Advances (CommandLine.commands script).length (running.events.filterMap Event.progress?) := by
  rcases exists_scriptEnds clock raises (session.withFlag false) (CommandLine.commands script) with
    ⟨outcome, ends⟩
  have same := ends.execute_eq.symm.trans executed
  cases ends with
  | empty | failed | interrupted => cases same
  | finished some ran calm =>
    cases same
    exact advances_lineEvents (List.length_pos_iff.2 some) (Step.length_inTurn_of_ok ran)

end Running

/-- Whatever a driver emits for a request and whatever comes of it, the stream of the job is
well formed, and it is what a worker tells about a job that is answered.  A script that is
executed reports progress behind each of its lines that never falls, up to 100. -/
theorem streams_well_formed :
    (∀ (events : List Event) (result : Except Error Response),
      JobEvent.IsStream events result (JobEvent.complete events result)) ∧
    (∀ {B : Backend} (worker : Worker B) (clock : Nat → Instant) (raises : Nat → Bool) (job : Job)
      (result : Except Error Response),
      Step.answer? (worker.session.handleRequest clock raises job.request) = some result →
        ∃ stream, (worker.runJob clock raises job).told
            = worker.told ++ stream.map (fun event => (job.ticket, event)) ∧
          JobEvent.IsStream
            (Step.finalState (worker.session.handleRequest clock raises job.request)).events
              result stream) ∧
    ∀ {B : Backend} (session : Session B) (clock : Nat → Instant) (raises : Nat → Bool)
      (script : String) (response : Response) (running : Running B),
      session.handleRequest clock raises (.execute script) = .ok response running →
        Running.Advances (CommandLine.commands script).length
          (running.events.filterMap Event.progress?) := by
  constructor
  · exact JobEvent.isStream_complete
  constructor
  · intro B worker clock raises job result answered
    exact ⟨_, Worker.told_runJob answered, JobEvent.isStream_complete _ result⟩
  · intro B session clock raises script response running executed
    exact Running.advances_of_executed executed

namespace Session

/-- A session in memory without a key. -/
def keyless : Session Memory.backend :=
  ⟨Config.forDatabase "default", (),
    some ⟨OrderedMap.singleton "default" (Storage.Engine.empty Storage.spread), "default"⟩, false⟩

end Session

/-- A script stores two keys. -/
theorem streams_well_formed_two_lines :
    let request : Request := .execute "SET k v\nSET l w"
    ∃ (running : Running Memory.backend) (stream : List JobEvent),
      Session.keyless.handleRequest id (fun _ => false) request = .ok (.executed 2) running ∧
      ((Worker.start Session.keyless).runJob id (fun _ => false) ⟨0, request⟩).told
        = stream.map (fun event => (0, event)) ∧
      JobEvent.IsStream running.events (.ok (.executed 2)) stream ∧
      Running.Advances 2 (running.events.filterMap Event.progress?) := by
  intro request
  have firstLine : Session.runLine 0 "SET k v" Session.keyless
      = .ok ⟨"SET k v", [.string "OK"]⟩
        (Step.finalState (Session.runLine 0 "SET k v" Session.keyless)) := by rfl
  have secondLine : Session.runLine 1 "SET l w"
      (Step.finalState (Session.runLine 0 "SET k v" Session.keyless))
        = .ok ⟨"SET l w", [.string "OK"]⟩ (Step.finalState (Session.runLine 1 "SET l w"
          (Step.finalState (Session.runLine 0 "SET k v" Session.keyless)))) := by rfl
  have lines : CommandLine.commands "SET k v\nSET l w" = ["SET k v", "SET l w"] := by rfl
  -- what the session has become does not matter any more
  generalize Step.finalState (Session.runLine 1 "SET l w" _) = reached at secondLine
  have ran : Session.runEach id 0 ["SET k v", "SET l w"] (Session.keyless.withFlag false)
      = ([_, _], .ok () reached) :=
    Session.runEach_cons_of_ok firstLine (Session.runEach_cons_of_ok secondLine rfl)
  have ends := @Running.ScriptEnds.finished _ id (fun _ => false) _ _ _ _ (List.cons_ne_nil _ _) ran
    fun _ _ _ => rfl
  have executed : Session.keyless.handleRequest id (fun _ => false) request
      = .ok (.executed 2) _ := Running.ScriptEnds.execute_eq (lines ▸ ends)
  rcases streams_well_formed.2.1 (Worker.start Session.keyless) id (fun _ => false) ⟨0, request⟩ _
    (congrArg Step.answer? executed) with ⟨stream, told, isStream⟩
  have advances := streams_well_formed.2.2 _ _ _ _ _ _ executed
  dsimp only [Worker.start] at isStream
  rw [executed] at isStream
  exact ⟨_, stream, executed, told, isStream, advances⟩

end KeyConsole
