import Conveyor.Cli.Job
import Conveyor.Log.Format

/-!
# The course of a job

One of the many ways in which a job can go: the threads move until none can, then the main task goes on. Where the
handler takes time, all other threads are quicker than the workers, which then move only when nothing else can.
Signals, if there are any, arrive when the producers have done what they can and no item has been taken.

* `reachable_of_course`: the job can come to the state at the end of its course.
-/

namespace Conveyor.Cli

open Queue

/-- A job under way. -/
structure Course where
  job : Job
  state : Job.State
  /-- The threads that sleep, the one that fell asleep first in front. -/
  sleepers : List ThreadId := []

namespace Course

/-- More moves than any stretch of a course takes. -/
def fuel : Nat := 1000000000

def start (job : Job) : Course := { job, state := job.start }

/-- The threads that were started so far. -/
def threads (c : Course) : List ThreadId := List.range c.state.queue.threads.length

def workers (c : Course) : List ThreadId := c.threads.take c.job.setup.workers

/-- The threads of the job itself. -/
def clients (c : Course) : List ThreadId := c.threads.drop c.job.setup.workers

/-- The threads that move whenever they can. -/
def eager (c : Course) : List ThreadId := if c.job.workload.workMs = 0 then c.threads else c.clients

/-- The run of the queue. -/
def queueRun (c : Course) : Run Nat := ⟨c.job.setup, c.state.queue, c.sleepers⟩

/-- The course after moves of the queue's threads. -/
def withRun (c : Course) (r : Run Nat) : Course :=
  { c with state := { c.state with queue := r.state }, sleepers := r.sleepers }

/-- The given threads move until none of them can. -/
def settle (threads : List ThreadId) (c : Course) : Course :=
  if c.state.phase.isOver then c else c.withRun (c.queueRun.settleAmong threads fuel)

/-- A worker makes one move, if one can. -/
def toil? (c : Course) : Option Course :=
  if c.state.phase.isOver then none else (c.queueRun.move? c.workers).map c.withRun

/-- The course after a move of the job, if that is open. -/
def move? (c : Course) (m : Job.Move) : Option Course :=
  (c.job.step c.state m).map fun s => { c with state := s }

def move (c : Course) (m : Job.Move) : Course := (c.move? m).getD c

/-- The main task goes on, and learns of a signal before anything else; where it cannot, a worker does. In between the
eager threads move. -/
def proceed : Nat → Course → Course
  | 0, c => c
  | n + 1, c =>
    match ((c.move? .interrupt).orElse fun _ => c.move? .main).orElse fun _ => c.toil? with
    | some c => proceed n (c.settle c.eager)
    | none => c

/-- The threads of the job itself move, and the workers do not. -/
def prepare (c : Course) : Course := ((c.settle c.clients).move .main).settle c.clients

/-- The `k`-th signal arrives and is handled. -/
def signal (c : Course) (k : Nat) : Course :=
  let t := c.state.queue.threads.length
  ((((c.move .signal).settle [t]).move (.handle k)).settle [t]).move (.handle k)

/-- The course of a job during which signals arrive. -/
def run (job : Job) (signals : Nat) : Course :=
  let c := start job
  if signals = 0 then (c.settle c.eager).proceed fuel
  else ((List.range signals).foldl signal c.prepare).proceed fuel

/-- The name that log lines give to the threads that wait on behalf of the main task. -/
def poolThread : String := "tokio-rt-worker"

/-- The name of a thread. -/
def threadName (c : Course) (t : ThreadId) : String :=
  if t < c.job.setup.workers then c.job.setup.workerName t
  else if (c.job.producer 0 ≤ t ∧ t ≤ c.job.observer) ∨ c.state.disposer = some t then poolThread
  else "main"

/-- What was logged, in the order of time. -/
def records (c : Course) : List Log.Record :=
  c.state.queue.shared.journal.reverse.filterMap fun
    | (t, .said n) =>
      some
        { level := n.level
          target := n.place.target
          line := some n.place.line
          message := n.text
          thread := some (c.threadName t) }
    | _ => none

/-! ## Courses are possible -/

theorem advances_reachable {job : Job} {s : Job.State} {q : Queue.State Nat} (h : Job.Reachable job s)
    (ho : s.phase.isOver = false) (ha : Advances job.setup s.queue q) :
    Job.Reachable job { s with queue := q } := by
  induction ha with
  | refl => exact h
  | @run _ _ t w _ hs ih => exact ih.step (m := .run t w) (by simp [Job.step, ho, hs])
  | @rouse _ _ t _ hs ih => exact ih.step (m := .rouse t) (by simp [Job.step, ho, hs])

/-- Whether a course is one that the job can take. -/
def Possible (job : Job) (c : Course) : Prop := c.job = job ∧ Job.Reachable job c.state

namespace Possible

variable {job : Job} {c : Course}

theorem withRun (h : Possible job c) (ho : c.state.phase.isOver = false) {r : Run Nat}
    (ha : Advances c.job.setup c.state.queue r.state) : Possible job (c.withRun r) := by
  obtain ⟨rfl, hr⟩ := h
  exact ⟨rfl, advances_reachable hr ho ha⟩

theorem settle (h : Possible job c) (threads : List ThreadId) : Possible job (c.settle threads) := by
  unfold Course.settle
  split
  · exact h
  · rename_i ho
    exact h.withRun (by simpa using ho) (Run.settleAmong_advances (r := c.queueRun)).2

theorem toil? {c' : Course} (h : Possible job c) (hc : c.toil? = some c') : Possible job c' := by
  unfold Course.toil? at hc
  split at hc
  · contradiction
  · rename_i ho
    obtain ⟨r, hr, rfl⟩ := Option.map_eq_some_iff.1 hc
    exact h.withRun (by simpa using ho) (Run.move?_advances (r := c.queueRun) hr).2

theorem move? {c' : Course} (h : Possible job c) {m : Job.Move} (hm : c.move? m = some c') : Possible job c' := by
  obtain ⟨rfl, hr⟩ := h
  obtain ⟨s, hs, rfl⟩ := Option.map_eq_some_iff.1 hm
  exact ⟨rfl, hr.step hs⟩

theorem move (h : Possible job c) (m : Job.Move) : Possible job (c.move m) := by
  unfold Course.move
  cases hm : c.move? m with
  | none => exact h
  | some c' => exact h.move? hm

theorem proceed (h : Possible job c) (n : Nat) : Possible job (c.proceed n) := by
  induction n generalizing c with
  | zero => exact h
  | succ n ih =>
    unfold Course.proceed
    split
    · rename_i c' hc
      refine ih (.settle ?_ _)
      rcases hi : c.move? .interrupt with - | c1
      · rcases hm : c.move? .main with - | c1
        · exact h.toil? (by simpa [hi, hm] using hc)
        · exact (show c1 = c' by simpa [hi, hm] using hc) ▸ h.move? hm
      · exact (show c1 = c' by simpa [hi] using hc) ▸ h.move? hi
    · exact h

theorem signals (h : Possible job c) (ks : List Nat) : Possible job (ks.foldl Course.signal c) := by
  induction ks generalizing c with
  | nil => exact h
  | cons k ks ih => exact ih (((((h.move _).settle _).move _).settle _).move _)

end Possible

/-- The job can come to the state at the end of its course. -/
theorem reachable_of_course (job : Job) (signals : Nat) : Job.Reachable job (run job signals).state := by
  have h : Possible job (start job) := ⟨rfl, .start⟩
  unfold run
  simp only
  split
  · exact ((h.settle _).proceed _).2
  · exact ((((h.settle _).move _).settle _).signals _ |>.proceed _).2

end Course

end Conveyor.Cli
