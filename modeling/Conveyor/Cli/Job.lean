import Conveyor.Cli.Summary
import Conveyor.Production
import Conveyor.Queue.Schedule

/-!
# Jobs

A job drives a workload through a queue. Its main task starts a producer for each stripe, waits for the producers one
after the other, completes adding, and waits until the queue has drained; then it looks at the counters, and lets go of
the queue. Signals may arrive at any time: the first cancels the token that the producers look at, and then tells the
main task, which stops waiting and disposes of the queue; a second one ends the program at once.

The main task, the producers, the observer of exceptions and the handling of each signal are clients of the queue;
what they do between two calls is a move of the job.

* `Reachable`: the states that some sequence of moves leads to.
* `Reachable.queue`: the queue of such a state is in a state that it can come to.
-/

namespace Conveyor.Cli

open Queue

structure Job where
  setup : Setup Nat
  workload : Workload

namespace Job

/-- The token that a signal cancels. -/
def token : TokenId := "shutdown"

/-- The name under which exceptions are observed. -/
def subscriber : String := "cli-exceptions"

/-- Where a client stands between two calls. -/
def atRest : Script Nat := .pause "rest"

/-- Makes one call and comes to rest. -/
def thenRest (c : Call Nat) : Script Nat := .call c fun _ => atRest

/-- Where the main task stands. -/
inductive Phase where
  /-- Subscribes to exceptions. -/
  | opening
  /-- Waits for producer number `next`. -/
  | gathering (next : Nat)
  | completing
  /-- Waits for the completion of the queue. -/
  | draining
  /-- Knows how the job ended. -/
  | decided (outcome : Outcome)
  /-- Waits for the thread that disposes of the queue. -/
  | disposing (outcome : Outcome)
  /-- Ends the subscription. -/
  | closing (outcome : Outcome)
  /-- Hands what was received to the observer of exceptions. -/
  | collecting (outcome : Outcome)
  /-- Waits for the observer of exceptions. -/
  | observing (outcome : Outcome) (observed : Nat)
  /-- Reads the counters. -/
  | counting (outcome : Outcome) (observed : Nat)
  /-- Lets go of the queue. -/
  | leaving (outcome : Outcome)
  | ended (outcome : Outcome)
  | failed (error : QueueError)
  /-- A second signal ended the program. -/
  | killed

/-- Whether the program has ended. -/
def Phase.isOver : Phase → Bool
  | .ended _ | .failed _ | .killed => true
  | _ => false

structure State where
  queue : Queue.State Nat
  phase : Phase := .opening
  /-- The threads that handle signals, in the order of arrival. -/
  signals : List ThreadId := []
  /-- The thread that disposes of the queue after a signal. -/
  disposer : Option ThreadId := none
  /-- Whether a message for the main task is on its way. -/
  announced : Bool := false
  /-- What was printed. -/
  summary : Option (Outcome × Stats) := none

/-- What the job can do next. -/
inductive Move where
  /-- Thread `t` of the queue performs one instruction. -/
  | run (t : ThreadId) (sleeper : Option ThreadId)
  /-- Thread `t` wakes up without a notification. -/
  | rouse (t : ThreadId)
  /-- The main task goes on. -/
  | main
  /-- The main task learns of a signal. -/
  | interrupt
  /-- A signal arrives. -/
  | signal
  /-- The handling of the `k`-th signal goes on. -/
  | handle (k : Nat)

/-! ## Threads -/

/-- The thread of the main task. -/
def mainThread (j : Job) : ThreadId := j.setup.workers

/-- The thread of a producer. -/
def producer (j : Job) (index : Nat) : ThreadId := j.setup.workers + 1 + index

/-- The thread that observes exceptions. -/
def observer (j : Job) : ThreadId := j.setup.workers + 1 + j.workload.producers

/-- What the main task does first. -/
def opening (j : Job) : Script Nat :=
  .call (.say (.runStarted j.setup.name j.workload.items j.workload.producers j.setup.workers)) fun _ =>
    thenRest (.subscribe subscriber .exceptionsOnly)

/-- What a producer does once the main task has subscribed. -/
def production (j : Job) (index : Nat) : Script Nat := Production.produce token (j.workload.stripe index)

/-- The clients of the queue: the main task, the producers and the observer. -/
def clients (j : Job) : List (Script Nat) :=
  j.opening :: (List.range j.workload.producers).map (fun _ => atRest) ++ [atRest]

/-- The state in which the queue was just built. -/
def start (j : Job) : State where
  queue := j.clients.foldl Queue.State.spawn j.setup.start

/-! ## Moves -/

/-- Lets a client that is at rest go on. -/
def tell (j : Job) (q : Queue.State Nat) (t : ThreadId) (script : Script Nat) : Option (Queue.State Nat) :=
  Queue.step j.setup q (.answer t script)

/-- What is logged of a producer that has come to its end. -/
def producerNotice : Ending Nat → Log.Notice
  | .returned (.accepted n none) => .producerFinished n
  | .returned (.accepted _ (some e)) => .producerStopped e.message
  | _ => .producerFinished 0

/-- What is logged of an exception that was observed. -/
def observation (e : QueueEvent) : Option Log.Notice := e.exception.map fun x => .exceptionObserved x.kind x.cause

/-- Says notices one after the other. -/
def sayAll : List Log.Notice → Script Nat
  | [] => .done
  | n :: ns => .call (.say n) fun _ => sayAll ns

/-- What is logged at the end of a job. -/
def closingNotices (j : Job) (outcome : Outcome) (observed : Nat) (stats : Stats) : List Log.Notice :=
  let expected := j.workload.expectedFailures.getD 0
  .exceptionsObserved observed ::
    if outcome = .drained ∧ stats.failed ≠ expected then [.failuresDiffer expected stats.failed] else []

/-- Says notices and then lets go of the queue. -/
def leave : List Log.Notice → Script Nat
  | [] => .just .drop
  | n :: ns => .call (.say n) fun _ => leave ns

/-- The next move of the main task. -/
def advance (j : Job) (s : State) : Option State :=
  let tellMain (script : Script Nat) (phase : Phase) : Option State :=
    (j.tell s.queue j.mainThread script).map fun q => { s with queue := q, phase := phase }
  match s.phase with
  | .opening =>
    match s.queue.pause? j.mainThread with
    | some _ =>
      ((List.range j.workload.producers).foldlM (fun q i => j.tell q (j.producer i) (j.production i)) s.queue).map
        fun q => { s with queue := q, phase := .gathering 0 }
    | none => none
  | .gathering next =>
    if next < j.workload.producers then
      match s.queue.ending? (j.producer next) with
      | some e => tellMain (thenRest (.say (producerNotice e))) (.gathering (next + 1))
      | none => none
    else tellMain (thenRest .completeAdding) .completing
  | .completing =>
    match s.queue.pause? j.mainThread, s.queue.reply? j.mainThread with
    | some _, some (.error e) => some { s with phase := .failed e }
    | some _, _ => some { s with phase := .draining }
    | none, _ => none
  | .draining =>
    s.queue.shared.watch.map fun drained =>
      { s with phase := .decided (if drained then .drained else .disposed) }
  | .decided outcome =>
    if outcome = .interrupted ∨ token ∈ s.queue.shared.cancelled then
      (j.tell s.queue j.mainThread (thenRest (.say (.shuttingDown j.setup.name)))).map fun q =>
        { s with queue := q.spawn (.just .dispose), phase := .disposing outcome, disposer := some q.threads.length }
    else some { s with phase := .closing outcome }
  | .disposing outcome => if s.disposer.all s.queue.hasEnded then some { s with phase := .closing outcome } else none
  | .closing outcome => tellMain (thenRest (.unsubscribe subscriber)) (.collecting outcome)
  | .collecting outcome =>
    match s.queue.pause? j.mainThread with
    | some _ =>
      let (hub, events) := s.queue.shared.hub.drain 0
      let q := { s.queue with shared := { s.queue.shared with hub := hub } }
      (j.tell q j.observer (sayAll (events.filterMap observation))).map fun q =>
        { s with queue := q, phase := .observing outcome events.length }
    | none => none
  | .observing outcome observed =>
    if s.queue.hasEnded j.observer then tellMain (thenRest .stats) (.counting outcome observed) else none
  | .counting outcome observed =>
    match s.queue.reply? j.mainThread with
    | some (.stats stats) =>
      (j.tell s.queue j.mainThread (leave (j.closingNotices outcome observed stats))).map fun q =>
        { s with queue := q, phase := .leaving outcome, summary := some (outcome, stats) }
    | _ => none
  | .leaving outcome => if s.queue.hasEnded j.mainThread then some { s with phase := .ended outcome } else none
  | .ended _ | .failed _ | .killed => none

/-- The main task stops waiting because of a signal; it can only do so between two calls. -/
def interrupt (j : Job) (s : State) : Option State :=
  if s.announced then
    match s.phase, s.queue.pause? j.mainThread with
    | .gathering _, some _ | .draining, some _ => some { s with phase := .decided .interrupted }
    | _, _ => none
  else none

/-- The next move in the handling of a signal: its token is cancelled; now the main task is told, and then the first
signal is done with, and any other ends the program. -/
def handle (j : Job) (s : State) (k : Nat) : Option State :=
  match s.signals[k]? with
  | none => none
  | some t =>
    match s.queue.pause? t with
    | some "cancelled" =>
      (j.tell s.queue t (if k = 0 then .just (.say .interrupted)
        else .call (.say .interruptedAgain) fun _ => .pause "last")).map fun q =>
          { s with queue := q, announced := true }
    | some "last" => some { s with phase := .killed }
    | _ => none

/-- One move of the job; `none` if it is not open in this state. -/
def step (j : Job) (s : State) (m : Move) : Option State :=
  if s.phase.isOver then none
  else
    match m with
    | .run t sleeper => (Queue.step j.setup s.queue (.run t sleeper)).map fun q => { s with queue := q }
    | .rouse t => (Queue.step j.setup s.queue (.rouse t)).map fun q => { s with queue := q }
    | .main => j.advance s
    | .interrupt => j.interrupt s
    | .signal =>
      some
        { s with
          queue := s.queue.spawn (.call (.cancel token) fun _ => .pause "cancelled")
          signals := s.signals ++ [s.queue.threads.length] }
    | .handle k => j.handle s k

/-- The states that a job can come to. -/
inductive Reachable (j : Job) : State → Prop where
  | start : Reachable j j.start
  | step {s s' : State} {m : Move} : Reachable j s → j.step s m = some s' → Reachable j s'

/-! ## The queue of a job -/

variable {j : Job}

theorem spawn_reachable {u : Setup Nat} {q : Queue.State Nat} (h : Queue.Reachable u q) (script : Script Nat) :
    Queue.Reachable u (q.spawn script) :=
  h.step (c := .spawn script) rfl

theorem spawnAll_reachable {u : Setup Nat} {q : Queue.State Nat} (h : Queue.Reachable u q)
    (scripts : List (Script Nat)) : Queue.Reachable u (scripts.foldl Queue.State.spawn q) := by
  induction scripts generalizing q with
  | nil => exact h
  | cons x xs ih => exact ih (spawn_reachable h x)

theorem tell_reachable {q q' : Queue.State Nat} {t : ThreadId} {script : Script Nat}
    (h : Queue.Reachable j.setup q) (ht : j.tell q t script = some q') : Queue.Reachable j.setup q' :=
  h.step ht

theorem tellAll_reachable {q q' : Queue.State Nat} {t : Nat → ThreadId} {script : Nat → Script Nat} {is : List Nat}
    (h : Queue.Reachable j.setup q) (ht : is.foldlM (fun q i => j.tell q (t i) (script i)) q = some q') :
    Queue.Reachable j.setup q' := by
  induction is generalizing q with
  | nil =>
    obtain rfl : q = q' := Option.some.inj ht
    exact h
  | cons i is ih =>
    obtain ⟨q1, h1, h2⟩ := Option.bind_eq_some_iff.1 ht
    exact ih (tell_reachable h h1) h2

theorem advance_reachable {s s' : State} (h : Queue.Reachable j.setup s.queue) (hs : j.advance s = some s') :
    Queue.Reachable j.setup s'.queue := by
  have tellMain {script : Script Nat} {phase : Phase}
      (hm : (j.tell s.queue j.mainThread script).map (fun q => { s with queue := q, phase := phase }) = some s') :
      Queue.Reachable j.setup s'.queue := by
    obtain ⟨q, hq, rfl⟩ := Option.map_eq_some_iff.1 hm
    exact tell_reachable h hq
  unfold advance at hs
  split at hs
  · split at hs
    · obtain ⟨q, hq, rfl⟩ := Option.map_eq_some_iff.1 hs
      exact tellAll_reachable h hq
    · contradiction
  · split at hs
    · split at hs
      · exact tellMain hs
      · contradiction
    · exact tellMain hs
  · split at hs
    · cases hs; exact h
    · cases hs; exact h
    · contradiction
  · obtain ⟨b, -, rfl⟩ := Option.map_eq_some_iff.1 hs
    exact h
  · split at hs
    · obtain ⟨q, hq, rfl⟩ := Option.map_eq_some_iff.1 hs
      exact spawn_reachable (tell_reachable h hq) _
    · cases hs; exact h
  · split at hs
    · cases hs; exact h
    · contradiction
  · exact tellMain hs
  · split at hs
    · obtain ⟨q, hq, rfl⟩ := Option.map_eq_some_iff.1 hs
      exact tell_reachable (h.step (c := .drain 0) rfl) hq
    · contradiction
  · split at hs
    · exact tellMain hs
    · contradiction
  · split at hs
    · obtain ⟨q, hq, rfl⟩ := Option.map_eq_some_iff.1 hs
      exact tell_reachable h hq
    · contradiction
  · split at hs
    · cases hs; exact h
    · contradiction
  all_goals contradiction

theorem step_queue_reachable {s s' : State} {m : Move} (h : Queue.Reachable j.setup s.queue)
    (hs : j.step s m = some s') : Queue.Reachable j.setup s'.queue := by
  unfold step at hs
  split at hs
  · contradiction
  · cases m with
    | run t w =>
      obtain ⟨q, hq, rfl⟩ := Option.map_eq_some_iff.1 hs
      exact h.step hq
    | rouse t =>
      obtain ⟨q, hq, rfl⟩ := Option.map_eq_some_iff.1 hs
      exact h.step hq
    | main => exact advance_reachable h hs
    | interrupt =>
      simp only [interrupt] at hs
      split at hs
      · split at hs
        · cases hs; exact h
        · cases hs; exact h
        · contradiction
      · contradiction
    | signal => cases hs; exact spawn_reachable h _
    | handle k =>
      simp only [handle] at hs
      split at hs
      · contradiction
      · split at hs
        · obtain ⟨q, hq, rfl⟩ := Option.map_eq_some_iff.1 hs
          exact tell_reachable h hq
        · cases hs; exact h
        · contradiction

/-- The queue of a job is in a state that it can come to. -/
theorem Reachable.queue {s : State} (h : Reachable j s) : Queue.Reachable j.setup s.queue := by
  induction h with
  | start => exact spawnAll_reachable .start _
  | step _ hs ih => exact step_queue_reachable ih hs

end Job

end Conveyor.Cli
