import Conveyor.Guarded
import Conveyor.Notification.Hub
import Conveyor.Queue.Setup

/-!
# The state of a running queue

Threads share one state. What a thread has still to do is a stack of instructions, each of which is one atomic step: a
section under a lock, a notification, the change of a counter, or a move of client code. Whatever happens between two
instructions of a thread may see the state in between.
-/

namespace Conveyor.Queue

variable {ι : Type}

/-- What the state lock guards. -/
structure Buffer (ι : Type) where
  /-- Accepted and not yet taken, oldest first. -/
  items : List ι := []
  addingCompleted : Bool := false
  disposed : Bool := false
  /-- Workers between a take and the end of their work on the item. -/
  busy : Nat := 0

/-- Adding has ended, and all that was accepted is done with. -/
def Buffer.isDrained (b : Buffer ι) : Bool :=
  !b.disposed && b.addingCompleted && b.items.isEmpty && b.busy == 0

/-- Whether a capacity leaves room for one more item. -/
def Buffer.hasRoom (b : Buffer ι) (capacity : Option Nat) : Bool :=
  match capacity with
  | none => true
  | some n => b.items.length < n

/-- What a thread may sleep on. -/
inductive Condition where
  | notEmpty
  | notFull
  | resolved
deriving DecidableEq

/-- On whose behalf a piece of client code runs. -/
inductive Role (ι : Type) where
  | handler (item : ι)
  | callback (exception : QueueException)
  | client

/-- An attempt to enqueue. -/
structure Bid (ι : Type) where
  item : ι
  /-- Whether the caller asked to try, and so learns whether the item was accepted. -/
  trying : Bool
  /-- The time at which the attempt ends, if it ends by itself. -/
  deadline : Option Nat
  token : Option TokenId

/-- The atomic steps of a thread. -/
inductive Instr (ι : Type) where
  /-- Client code that is about to make its next move. -/
  | run (role : Role ι) (script : Script ι)
  /-- Client code that goes on with the reply to its call. -/
  | resume (role : Role ι) (next : Reply ι → Script ι)
  /-- Take a strong reference through a producer's handle, for one call. -/
  | upgrade (call : List (Instr ι)) (dead : Reply ι)
  /-- Let go of a strong reference. -/
  | release
  /-- Let go of the owner's strong reference, unless that was done before. -/
  | disown
  /-- The state lock is taken for a bid; first look. -/
  | enter (b : Bid ι)
  /-- The state lock is taken again after a wait for room. -/
  | retry (b : Bid ι)
  | bump (c : Counter) (n : Nat)
  | notifyOne (c : Condition)
  | notifyAll (c : Condition)
  | say (n : Log.Notice)
  /-- Take the list of callbacks for an exception. -/
  | dispatch (e : QueueException)
  | invoke (callback : CallbackId) (e : QueueException)
  | publish (e : QueueEvent)
  /-- The state lock is taken for the next item; a worker without one sleeps or leaves. -/
  | take
  /-- The state lock is taken again after a wait for an item. -/
  | retake
  /-- Hand an item to the handler. -/
  | start (item : ι)
  /-- The worker is idle again. -/
  | finish
  | resolve (drained : Bool)
  | setWatch (drained : Bool)
  | completeAdding
  | dispose
  /-- Take the handles of the workers, to wait for their end. -/
  | takeHandles
  | join (worker : ThreadId)
  | pendingCount
  | pendingItems
  | stats
  /-- Read one counter into the statistics under way. -/
  | load (c : Counter)
  | isDisposed
  | isAddingCompleted
  | register (callback : CallbackId)
  | subscribe (id : String) (filter : EventFilter)
  | unsubscribe (id : String)
  | result
  /-- Look at the completion result; sleep if there is none and time is left. -/
  | awaitResult (deadline : Option Nat)
  | awaitWatch
  | cancel (token : TokenId)
  | isCancelled (token : TokenId)
  | reply (r : Reply ι)

/-- What the journal records. -/
inductive Note (ι : Type) where
  | accepted (item : ι)
  | taken (item : ι)
  | abandoned (items : List ι) (drained : Bool)
  | started (item : ι)
  | handled (item : ι) (ending : Ending ι)
  | raised (e : QueueException)
  | called (callback : CallbackId) (e : QueueException)
  | published (e : QueueEvent)
  | resolved (drained : Bool)
  | poisoned
  | subscribed (id : String) (channel : Nat)
  | said (n : Log.Notice)

/-- What the threads share. -/
structure Shared (ι : Type) where
  buffer : Guarded (Buffer ι) := ⟨{}, false⟩
  counters : Counters := {}
  /-- The registered callbacks, in order of registration. -/
  callbacks : List CallbackId := []
  hub : Hub := {}
  /-- The completion result. -/
  result : Option Bool := none
  /-- The completion result as the watch channel shows it. -/
  watch : Option Bool := none
  /-- The workers that nobody has waited for yet. -/
  handles : List ThreadId := []
  /-- How many strong references keep the queue alive: the owner's, the workers' and those of producers' calls. -/
  strong : Nat := 0
  /-- Whether one of the strong references is the owner's. -/
  owned : Bool := true
  cancelled : List TokenId := []
  /-- Milliseconds gone by. -/
  now : Nat := 0
  /-- What happened, on which thread, latest first. -/
  journal : List (ThreadId × Note ι) := []

structure Thread (ι : Type) where
  /-- What is still to do, next first; empty once the thread has ended. -/
  stack : List (Instr ι)
  /-- What the thread sleeps on. -/
  asleep : Option Condition := none
  /-- The reply to the call that was last made. -/
  reply : Reply ι := .unit
  /-- How the client's code ended. -/
  ending : Option (Ending ι) := none

def Thread.hasEnded (t : Thread ι) : Bool := t.stack.isEmpty

/-- A running queue: the first threads are its workers, the others its clients. -/
structure State (ι : Type) where
  shared : Shared ι
  threads : List (Thread ι)

/-- Whether thread `t` has ended; a thread that never was counts as ended. -/
def State.hasEnded (s : State ι) (t : ThreadId) : Bool :=
  match s.threads[t]? with
  | some th => th.hasEnded
  | none => true

/-- How the client on a thread ended. -/
def State.ending? (s : State ι) (t : ThreadId) : Option (Ending ι) :=
  (s.threads[t]?).bind fun th => if th.hasEnded then th.ending else none

/-- The label of the pause that thread `t` is in. -/
def State.pause? (s : State ι) (t : ThreadId) : Option String :=
  (s.threads[t]?).bind fun th =>
    match th.stack with
    | .run _ (.pause label) :: _ => some label
    | _ => none

/-- The reply that thread `t` holds. -/
def State.reply? (s : State ι) (t : ThreadId) : Option (Reply ι) := (s.threads[t]?).map (·.reply)

/-- One more client. -/
def State.spawn (s : State ι) (script : Script ι) : State ι :=
  { s with threads := s.threads ++ [{ stack := [.run .client script] }] }

/-- A queue that was just built: every worker is about to look for its first item. -/
def Setup.start (u : Setup ι) : State ι where
  shared :=
    { callbacks := u.callbacks
      handles := List.range u.workers
      strong := u.workers + 1
      journal := [(u.workers, .said (.queueStarted u.name u.workers u.capacity))] }
  threads := (List.range u.workers).map fun i => { stack := [.say (.workerStarted u.name i), .take] }

end Conveyor.Queue
