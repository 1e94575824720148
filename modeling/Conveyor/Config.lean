import Conveyor.Validation

/-!
# Queue configuration

The three settings of a queue. A configuration is checked by `QueueConfig.validate`, in the order name, workers,
capacity; the first setting that is wrong is reported.
-/

namespace Conveyor

/-- Settings of a queue; a negative capacity asks for an unbounded one. -/
structure QueueConfig where
  name : String := "queue"
  workers : Nat := 1
  boundedCapacity : Int := -1
deriving DecidableEq

namespace QueueConfig

/-- The capacity as the queue uses it. -/
def capacity (c : QueueConfig) : Except ValidationError (Option Nat) :=
  Validation.capacity c.boundedCapacity

/-- Whether a queue can be built from the settings. -/
def validate (c : QueueConfig) : Except ValidationError Unit := do
  Validation.queueName c.name
  if c.workers = 0 then throw .noWorkers
  let _ ← c.capacity

end QueueConfig

end Conveyor
