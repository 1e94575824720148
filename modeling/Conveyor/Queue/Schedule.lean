import Conveyor.Queue.Launch
import Conveyor.Queue.Step

/-!
# A schedule

Runs a queue until nothing can move any more without something from outside. The schedule is one of the many that
`step` allows: it prefers the threads in the order given, wakes sleepers in the order in which they fell asleep (those
that poll a token last, since they go back to sleep again and again), and lets no time go by except to end the wait of
one given thread.

* `settle_reachable`: what the schedule leads to can be reached by steps.
-/

namespace Conveyor.Queue

variable {ι : Type}

/-- Whether what threads wait for on a condition has come. -/
def Condition.isMet (c : Condition) (capacity : Option Nat) (s : Shared ι) : Bool :=
  let b := s.buffer.recovered
  match c with
  | .notEmpty => b.disposed || b.addingCompleted || !b.items.isEmpty
  | .notFull => b.disposed || b.addingCompleted || b.hasRoom capacity
  | .resolved => s.result.isSome

/-- A run that the schedule looks after. -/
structure Run (ι : Type) where
  setup : Setup ι
  state : State ι
  /-- The threads that sleep, the one that fell asleep first in front. -/
  sleepers : List ThreadId := []

namespace Run

def start (q : Built ι) : Run ι := { setup := q.setup, state := q.state }

def thread? (r : Run ι) (t : ThreadId) : Option (Thread ι) := r.state.threads[t]?

/-- What thread `t` does next. -/
def next? (r : Run ι) (t : ThreadId) : Option (Instr ι) := (r.thread? t).bind (·.stack.head?)

def isAsleep (r : Run ι) (t : ThreadId) : Bool := (r.thread? t).any (·.asleep.isSome)

def hasEnded (r : Run ι) (t : ThreadId) : Bool := r.state.hasEnded t

/-- Whether thread `t` wakes up every now and then to look at a token. -/
def polls (r : Run ι) (t : ThreadId) : Bool :=
  match r.next? t with
  | some (.retry bid) => bid.token.isSome
  | _ => false

/-- The time at which thread `t`, asleep, gives up. -/
def deadline? (r : Run ι) (t : ThreadId) : Option Nat :=
  if r.isAsleep t then
    match r.next? t with
    | some (.retry bid) => bid.deadline
    | some (.awaitResult deadline) => deadline
    | _ => none
  else none

/-- The run after a choice. -/
def choose? (r : Run ι) (c : Choice ι) : Option (Run ι) :=
  (step r.setup r.state c).map fun s =>
    let r' := { r with state := s }
    let old := r.sleepers.filter r'.isAsleep
    { r' with
      sleepers := old ++ (List.range s.threads.length).filter fun t => r'.isAsleep t && !r.sleepers.contains t }

def choose (r : Run ι) (c : Choice ι) : Run ι := (r.choose? c).getD r

/-- The run after thread `t` performed one instruction, if it can. -/
def advance? (r : Run ι) (t : ThreadId) : Option (Run ι) :=
  if r.isAsleep t || r.hasEnded t then none
  else
    let order := r.sleepers.filter (!r.polls ·) ++ r.sleepers.filter r.polls
    (none :: order.map some).findSome? fun w => r.choose? (.run t w)

/-- Whether thread `t` sleeps although what it waits for has come. -/
def isLate (r : Run ι) (t : ThreadId) : Bool :=
  ((r.thread? t).bind (·.asleep)).any fun c => c.isMet r.setup.capacity r.state.shared

/-- Whether a thread that polls would find that it was told to stop waiting, or need not wait any more. -/
def isOverdue (r : Run ι) (t : ThreadId) : Bool :=
  match r.next? t with
  | some (.retry bid) =>
    r.isAsleep t && bid.token.isSome && (bid.token.any (· ∈ r.state.shared.cancelled) || r.isLate t)
  | _ => false

/-- Whether thread `t` sleeps although what it waits for has come, and will not wake up by itself. -/
def isOverlooked (r : Run ι) (t : ThreadId) : Bool := r.isLate t && !r.polls t && (r.deadline? t).isNone

/-- Whether a thread that polls would find the lock poisoned. -/
def isStranded (r : Run ι) (t : ThreadId) : Bool :=
  r.isAsleep t && r.polls t && r.state.shared.buffer.poisoned

/-- One move of the schedule, by one of the given threads, if there is one. -/
def move? (r : Run ι) (threads : List ThreadId) : Option (Run ι) :=
  match threads.findSome? r.advance? with
  | some r' => some r'
  | none => (r.sleepers.find? fun t => threads.contains t && r.isOverdue t).bind fun t => r.choose? (.rouse t)

/-- Moves of the given threads, the first of them preferred, until no move is left, at most `fuel` times. -/
def settleAmong (threads : List ThreadId) : Nat → Run ι → Run ι
  | 0, r => r
  | fuel + 1, r =>
    match r.move? threads with
    | some r' => settleAmong threads fuel r'
    | none => r

/-- Moves of any threads, some of them preferred, until no move is left, at most `fuel` times. -/
def settle (preferred : List ThreadId) (fuel : Nat) (r : Run ι) : Run ι :=
  settleAmong (preferred ++ List.range r.state.threads.length) fuel r

/-- How many milliseconds a thread that polls lets go by between two looks. -/
def pollInterval : Nat := 10

/-- As `settle`; and where thread `t` sleeps until a deadline, time goes by until then. -/
def settleFor (t : ThreadId) (fuel : Nat) (r : Run ι) : Run ι :=
  let r := r.settle [t] fuel
  match r.deadline? t with
  | some d =>
    let wait := d - r.state.shared.now
    let stranded := if pollInterval ≤ wait then r.sleepers.filter r.isStranded else []
    ((t :: stranded).foldl (fun r t => r.choose (.rouse t)) (r.choose (.tick wait))).settle [t] fuel
  | none => r

/-- A client starts; answers its thread. -/
def spawn (r : Run ι) (script : Script ι) : Run ι × ThreadId :=
  (r.choose (.spawn script), r.state.threads.length)

/-- How the client on a thread ended. -/
def ending? (r : Run ι) (t : ThreadId) : Option (Ending ι) := r.state.ending? t

/-- The label of the pause that thread `t` is in. -/
def pause? (r : Run ι) (t : ThreadId) : Option String := r.state.pause? t

/-- The threads in a pause, with its label. -/
def pauses (r : Run ι) : List (ThreadId × String) :=
  (List.range r.state.threads.length).filterMap fun t => (r.pause? t).map (t, ·)

/-- What happened after the first `old` entries of the journal, earliest first. -/
def newsSince (r : Run ι) (old : Nat) : List (Note ι) :=
  ((r.state.shared.journal.take (r.state.shared.journal.length - old)).map (·.2)).reverse

theorem choose?_run {r r' : Run ι} {t : ThreadId} {w : Option ThreadId} (hc : r.choose? (.run t w) = some r') :
    r'.setup = r.setup ∧ Advances r.setup r.state r'.state := by
  obtain ⟨s, hs, rfl⟩ := Option.map_eq_some_iff.1 hc
  exact ⟨rfl, .run .refl hs⟩

theorem choose?_rouse {r r' : Run ι} {t : ThreadId} (hc : r.choose? (.rouse t) = some r') :
    r'.setup = r.setup ∧ Advances r.setup r.state r'.state := by
  obtain ⟨s, hs, rfl⟩ := Option.map_eq_some_iff.1 hc
  exact ⟨rfl, .rouse .refl hs⟩

theorem advance?_advances {r r' : Run ι} {t : ThreadId} (ha : r.advance? t = some r') :
    r'.setup = r.setup ∧ Advances r.setup r.state r'.state := by
  unfold advance? at ha
  split at ha
  · contradiction
  · obtain ⟨w, -, hw⟩ := List.exists_of_findSome?_eq_some ha
    exact choose?_run hw

theorem move?_advances {r r' : Run ι} {threads : List ThreadId} (hm : r.move? threads = some r') :
    r'.setup = r.setup ∧ Advances r.setup r.state r'.state := by
  unfold move? at hm
  split at hm
  · rename_i r'' hf
    obtain ⟨t, -, ht⟩ := List.exists_of_findSome?_eq_some hf
    exact (Option.some.inj hm) ▸ advance?_advances ht
  · obtain ⟨t, -, ht⟩ := Option.bind_eq_some_iff.1 hm
    exact choose?_rouse ht

/-- What the schedule leads to can be reached by threads moving on their own. -/
theorem settleAmong_advances {threads : List ThreadId} {fuel : Nat} {r : Run ι} :
    (settleAmong threads fuel r).setup = r.setup ∧
      Advances r.setup r.state (settleAmong threads fuel r).state := by
  induction fuel generalizing r with
  | zero => exact ⟨rfl, .refl⟩
  | succ fuel ih =>
    unfold settleAmong
    split
    · rename_i r' hm
      have h := move?_advances hm
      exact ⟨ih.1.trans h.1, h.2.trans (h.1 ▸ ih.2)⟩
    · exact ⟨rfl, .refl⟩

/-- What the schedule leads to can be reached by steps. -/
theorem settle_reachable {preferred : List ThreadId} {fuel : Nat} {r : Run ι} (h : Reachable r.setup r.state) :
    Reachable (settle preferred fuel r).setup (settle preferred fuel r).state := by
  unfold settle
  have h' := @settleAmong_advances _ (preferred ++ List.range r.state.threads.length) fuel r
  rw [h'.1]
  exact h'.2.reachable h

end Run

end Conveyor.Queue
