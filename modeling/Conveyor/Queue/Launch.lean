import Conveyor.Queue.State

/-!
# Launching a queue

Once its settings have passed the checks, a queue makes room for the handles of its workers and starts their threads.
The room is asked for at once, and a list that would take more bytes than any allocation may have is no error of the
queue's but a panic. Up to that limit memory is taken to be there; whether a thread can be started is for the platform
to say.
-/

namespace Conveyor.Queue

variable {ι : Type}

/-- How many bytes one allocation may have at most. -/
def maxAllocation : Nat := 0x7fffffffffffffff

/-- How many bytes the handle of a thread takes. -/
def handleSize : Nat := 24

/-- The longest list of handles that there can be room for. -/
def maxHandles : Nat := maxAllocation / handleSize

/-- What the platform says to the start of a worker's thread: nothing, or why it cannot be. -/
abbrev Spawning := Nat → Option String

/-- Why there is no queue. -/
inductive BuildFault where
  | refused (e : QueueError)
  | panicked (p : Payload)

/-- The panic of a list that asks for more room than there can be. -/
def BuildFault.capacityOverflow : BuildFault := .panicked (.text "capacity overflow")

/-- The error of a worker whose thread cannot be started. -/
def BuildFault.unspawned (worker : Nat) (reason : String) : BuildFault :=
  .refused (.operationFailed ("failed to spawn worker " ++ toString worker ++ ": " ++ reason))

/-- A queue that was just built. -/
structure Built (ι : Type) where
  setup : Setup ι
  state : State ι

/-- Makes room for the handles of the workers, and starts them in turn. -/
def Setup.launch (u : Setup ι) (spawning : Spawning) : Except BuildFault (Built ι) :=
  if maxHandles < u.workers then .error .capacityOverflow
  else
    match (List.range u.workers).findSome? fun i => (spawning i).map (BuildFault.unspawned i) with
    | some fault => .error fault
    | none => .ok ⟨u, u.start⟩

/-- The queue with settings that have been checked. -/
def Built.ofChecked (spawning : Spawning) (checked : Except QueueError (Setup ι)) : Except BuildFault (Built ι) :=
  match checked with
  | .error e => .error (.refused e)
  | .ok u => u.launch spawning

/-- The queue that a builder makes. -/
def Builder.build (b : Builder ι) (spawning : Spawning) : Except BuildFault (Built ι) :=
  Built.ofChecked spawning b.check

namespace Built

/-- The queue that a configuration asks for. -/
def ofConfig (c : QueueConfig) (code : Code ι) (spawning : Spawning) : Except BuildFault (Built ι) :=
  ofChecked spawning (Setup.ofConfig c code)

/-- A queue with the default name. -/
def new (code : Code ι) (workers : Nat) (capacity : Option Nat) (spawning : Spawning) :
    Except BuildFault (Built ι) :=
  ofChecked spawning (Setup.new code workers capacity)

end Built

end Conveyor.Queue
