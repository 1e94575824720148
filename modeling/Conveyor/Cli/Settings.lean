import Conveyor.Config
import Conveyor.Workload

/-!
# Settings of a run

What a run can be told, from the command line or from a configuration file. Every setting is optional: what neither
gives is resolved to a default.

* `workload_producers`, `workload_failEvery`: a workload has a producer, and never asks for every zeroth item to fail.
-/

namespace Conveyor.Cli

structure Settings where
  configFile : Option String := none
  name : Option String := none
  workers : Option Nat := none
  capacity : Option Int := none
  items : Option Nat := none
  producers : Option Nat := none
  workMs : Option Nat := none
  failEvery : Option Nat := none
  /-- Whether coloured output is asked for. -/
  color : Bool := false
  /-- Whether plain output is asked for. -/
  noColor : Bool := false
  logLevel : Option String := none
  logFile : Option String := none
  logFormat : Option String := none
deriving DecidableEq

namespace Settings

def itemCount (s : Settings) : Nat := s.items.getD 100

def producerCount (s : Settings) : Nat := s.producers.getD 1

/-- How long the handler works on one item, in milliseconds. -/
def workTime (s : Settings) : Nat := s.workMs.getD 10

/-- After how many items one fails; zero stands for no failures. -/
def failureInterval (s : Settings) : Option Nat := s.failEvery.filter (0 < ·)

/-- Whether output is coloured; where neither is asked for, a terminal decides. -/
def useColor (s : Settings) (terminal : Bool) : Bool := !s.noColor && (s.color || terminal)

/-- The settings of the queue, not yet checked. -/
def queue (s : Settings) : QueueConfig :=
  let d : QueueConfig := {}
  { name := s.name.getD d.name
    workers := s.workers.getD d.workers
    boundedCapacity := s.capacity.getD d.boundedCapacity }

/-- The settings of the queue if one can be built from them. -/
def queueConfig (s : Settings) : Except ValidationError QueueConfig := s.queue.validate.map fun _ => s.queue

/-- The workload that the settings describe. -/
def workload (s : Settings) : Workload where
  items := s.itemCount
  producers := max s.producerCount 1
  workMs := s.workTime
  failEvery := s.failureInterval

theorem workload_producers (s : Settings) : 1 ≤ s.workload.producers := Nat.le_max_right _ _

theorem workload_failEvery (s : Settings) : s.workload.failEvery ≠ some 0 := by
  simp [workload, failureInterval, Option.filter_eq_some_iff]

end Settings

end Conveyor.Cli
