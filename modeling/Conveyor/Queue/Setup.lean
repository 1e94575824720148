import Conveyor.Config
import Conveyor.Error
import Conveyor.Queue.Script

/-!
# Building a queue

`Setup` is everything about a queue that never changes. It comes from a builder, whose settings may be given in any
order and more than once, or from a `QueueConfig`. Here are the checks that settings have to pass; the queue itself is
made in `Conveyor.Queue.Launch`.
-/

namespace Conveyor.Queue

/-- The code that a queue runs on its own threads, or on the threads of its callers. -/
structure Code (ι : Type) where
  handler : ι → Script ι
  /-- What a callback does when it is called for the `n`-th time, counted from zero. -/
  callback : CallbackId → Nat → QueueException → Script ι
  /-- The text with which an item panics when it is cloned, if it does. -/
  cloneFault : ι → Option String

structure Setup (ι : Type) where
  name : String
  workers : Nat
  capacity : Option Nat
  code : Code ι
  /-- The callbacks that are registered before any worker starts. -/
  callbacks : List CallbackId

/-- A queue in the making. -/
structure Builder (ι : Type) where
  name : String := "queue"
  code : Option (Code ι) := none
  workers : Nat := 1
  capacity : Option Nat := none
  callbacks : List CallbackId := []

namespace Builder

variable {ι : Type}

def withName (b : Builder ι) (name : String) : Builder ι := { b with name := name }

def withCode (b : Builder ι) (code : Code ι) : Builder ι := { b with code := some code }

def withWorkers (b : Builder ι) (n : Nat) : Builder ι := { b with workers := n }

def bounded (b : Builder ι) (n : Nat) : Builder ι := { b with capacity := some n }

def unbounded (b : Builder ι) : Builder ι := { b with capacity := none }

def onException (b : Builder ι) (callback : CallbackId) : Builder ι :=
  { b with callbacks := b.callbacks ++ [callback] }

/-- The settings of the finished queue; of several faults the first in this order is reported. -/
def check (b : Builder ι) : Except QueueError (Setup ι) :=
  match b.code with
  | none => .error (.invalidArgument "a handler is required")
  | some code =>
    if b.workers = 0 then .error (.ofValidation .noWorkers)
    else if b.capacity = some 0 then .error (.invalidArgument "bounded_capacity must be greater than 0")
    else
      match Validation.queueName b.name with
      | .error e => .error (.ofValidation e)
      | .ok _ => .ok ⟨b.name, b.workers, b.capacity, code, b.callbacks⟩

end Builder

namespace Setup

variable {ι : Type}

/-- The settings of a queue with the default name. -/
def new (code : Code ι) (workers : Nat) (capacity : Option Nat) : Except QueueError (Setup ι) :=
  let b := (({} : Builder ι).withCode code).withWorkers workers
  (match capacity with
    | some n => b.bounded n
    | none => b).check

/-- The settings of the queue that a configuration asks for. -/
def ofConfig (c : QueueConfig) (code : Code ι) : Except QueueError (Setup ι) :=
  match c.validate with
  | .error e => .error (.ofValidation e)
  | .ok _ =>
    match c.capacity with
    | .error e => .error (.ofValidation e)
    | .ok capacity =>
      let b := ((({} : Builder ι).withName c.name).withWorkers c.workers).withCode code
      (match capacity with
        | some n => b.bounded n
        | none => b).check

/-- The name of a worker's thread. -/
def workerName (u : Setup ι) (worker : Nat) : String := u.name ++ "-worker-" ++ toString worker

end Setup

end Conveyor.Queue
