import Conveyor.Queue.State
import Conveyor.Text.Escape

/-!
# Descriptions

One-line descriptions of a queue, of its statistics, of a completion and of a producer's handle, for people who look
for a fault.
-/

namespace Conveyor.Queue

variable {ι : Type}

/-- The statistics as they are once no thread is between two steps of its own. -/
def Shared.stats (s : Shared ι) : Stats :=
  { toCounters := s.counters
    pending := s.buffer.recovered.items.length
    active := s.buffer.recovered.busy }

/-- Named fields between braces. -/
def record (name : String) (fields : List (String × String)) : String :=
  name ++ " \x7b " ++ ", ".intercalate (fields.map fun f => f.1 ++ ": " ++ f.2) ++ " \x7d"

/-- An optional value, as a description shows it. -/
def optional {α : Type} (describe : α → String) : Option α → String
  | none => "None"
  | some x => "Some(" ++ describe x ++ ")"

def Stats.describe (s : Stats) : String :=
  record "QueueStats"
    [("enqueued", toString s.enqueued), ("processed", toString s.processed), ("failed", toString s.failed),
      ("rejected", toString s.rejected), ("abandoned", toString s.abandoned), ("pending", toString s.pending),
      ("active_workers", toString s.active)]

def Setup.describe (u : Setup ι) (s : Stats) : String :=
  record "ProducerConsumerQueue"
    [("name", Text.quote u.name), ("capacity", optional toString u.capacity),
      ("max_concurrency_level", toString u.workers), ("stats", s.describe)]

/-- The description of a completion with the given result. -/
def describeCompletion (result : Option Bool) : String :=
  record "Completion" [("result", optional (fun b : Bool => if b then "true" else "false") result)]

/-- The description of a producer's handle that knows its queue by the given name. -/
def describeProducer (queue : Option String) : String :=
  record "QueueProducer" [("queue", optional Text.quote queue)]

end Conveyor.Queue
