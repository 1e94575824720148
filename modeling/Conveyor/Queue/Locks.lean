import Conveyor.Queue.Step

/-!
# Locks

`step` performs at once what a thread does under a lock. Here it takes the lock, does what it took it for, and lets go
of it in moves of its own, so that it can be said at each point who is under which lock and who waits for one. A thread
that falls asleep on a condition lets go of the lock in the same move, and has to take it again when it is awake.

A thread takes a lock only for its next instruction and is under no other one meanwhile. One thing is done under a lock
apart from what it was taken for: that an event could not be delivered to everybody is said before the hub is let go. Of
client code, only that which clones an item runs under a lock; it makes no calls (`Code.cloneFault`).
-/

namespace Conveyor.Queue

variable {ι : Type}

inductive Lock where
  /-- Guards the buffer and the flags. -/
  | state
  /-- Guards the list of callbacks. -/
  | callbacks
  /-- Guards the hub. -/
  | notifications
  /-- Guards the handles of the workers. -/
  | handles
  /-- Guards the completion result. -/
  | completion
deriving DecidableEq

def Lock.all : List Lock := [.state, .callbacks, .notifications, .handles, .completion]

namespace Instr

/-- The lock under which an instruction is performed. -/
def lock? : Instr ι → Option Lock
  | .enter _ | .retry _ | .take | .retake | .finish | .completeAdding | .dispose | .pendingCount | .pendingItems
  | .stats | .isDisposed | .isAddingCompleted => some .state
  | .dispatch _ | .register _ => some .callbacks
  | .publish _ | .subscribe .. | .unsubscribe _ => some .notifications
  | .takeHandles => some .handles
  | .resolve _ | .result | .awaitResult _ => some .completion
  | .run .. | .resume .. | .upgrade .. | .release | .disown | .bump .. | .notifyOne _ | .notifyAll _ | .say _
  | .invoke .. | .start _ | .setWatch _ | .join _ | .load _ | .awaitWatch | .cancel _ | .isCancelled _
  | .reply _ => none

/-- Whether an instruction belongs to a section under a lock that was taken for an earlier one. -/
def staysUnder (l : Lock) : Instr ι → Bool
  | .say (.publishFailed ..) => l = .notifications
  | _ => false

end Instr

def State.isAsleep (q : State ι) (t : ThreadId) : Bool := (q.threads[t]?).any fun th => th.asleep.isSome

/-- A thread under a lock. -/
structure Holder where
  thread : ThreadId
  /-- Whether the thread has done what it took the lock for. -/
  done : Bool
deriving DecidableEq

/-- A running queue, and who is under which of its locks. -/
structure Locked (ι : Type) where
  queue : State ι
  held : Lock → Option Holder

/-- What a thread can do at a time. -/
inductive Move (ι : Type) where
  /-- Thread `t` takes the lock for its next instruction. -/
  | lock (t : ThreadId)
  /-- Thread `t` lets go of a lock. -/
  | unlock (t : ThreadId) (l : Lock)
  | choose (c : Choice ι)

namespace Locked

/-- Nobody is under a lock at the start. -/
def start (u : Setup ι) : Locked ι := ⟨u.start, fun _ => none⟩

/-- What thread `t` does next, if it is awake. -/
def next? (s : Locked ι) (t : ThreadId) : Option (Instr ι) :=
  match s.queue.threads[t]? with
  | some th => if th.asleep.isSome then none else th.stack.head?
  | none => none

def isUnder (s : Locked ι) (t : ThreadId) (l : Lock) : Bool := (s.held l).any (·.thread = t)

/-- Whether thread `t` is under no lock. -/
def isFree (s : Locked ι) (t : ThreadId) : Bool := Lock.all.all (!s.isUnder t ·)

/-- The same queue with a lock held by somebody, or by nobody. -/
def put (s : Locked ι) (l : Lock) (h : Option Holder) : Locked ι :=
  { s with held := fun l' => if l' = l then h else s.held l' }

/-- Whether thread `t` is under just the locks that an instruction wants. -/
def permits (s : Locked ι) (t : ThreadId) (i : Instr ι) : Bool :=
  match i.lock? with
  | some l => s.held l = some ⟨t, false⟩
  | none => Lock.all.all fun l => !s.isUnder t l || i.staysUnder l

/-- The queue has come to a state by an instruction of thread `t`. -/
def after (s : Locked ι) (t : ThreadId) (i : Instr ι) (q : State ι) : Locked ι :=
  match i.lock? with
  | some l => { s with queue := q }.put l (if q.isAsleep t then none else some ⟨t, true⟩)
  | none => { s with queue := q }

/-- One move; `none` if it is not open. -/
def step (u : Setup ι) (s : Locked ι) : Move ι → Option (Locked ι)
  | .lock t =>
    match (s.next? t).bind Instr.lock? with
    | some l => if s.isFree t && (s.held l).isNone then some (s.put l (some ⟨t, false⟩)) else none
    | none => none
  | .unlock t l =>
    if s.held l = some ⟨t, true⟩ && !(s.next? t).any (·.staysUnder l) then some (s.put l none) else none
  | .choose (.run t sleeper) =>
    match s.next? t with
    | some i => if s.permits t i then (Queue.step u s.queue (.run t sleeper)).map (s.after t i) else none
    | none => none
  | .choose c => (Queue.step u s.queue c).map fun q => { s with queue := q }

end Locked

end Conveyor.Queue
