import Conveyor.Queue.Setup
import Conveyor.Workload

/-!
# Production

How a synthetic workload is driven through a queue: producers that feed their ids in until they are done or cancelled,
and the handler that fails where the workload says so.
-/

namespace Conveyor

open Queue

/-- Ends a producer that delivered `n` ids. -/
def Production.finish (n : Nat) (error : Option QueueError) : Script Nat := .ret (.returned (.accepted n error))

/-- Feeds ids into the queue, `n` having been delivered before. A cancelled token ends the work, and so does the
disposal of the queue if it comes with a cancelled token; once all ids are delivered, `last` goes on. -/
def Production.feed (token : TokenId) (last : Nat → Script Nat) : List Nat → Nat → Script Nat
  | [], n => last n
  | id :: rest, n =>
    .call (.isCancelled token) fun
      | .bool true => finish n none
      | _ => .call (.add .producer id (some token)) fun
        | .error .cancelled => finish n none
        | .error .disposed => .call (.isCancelled token) fun
          | .bool true => finish n none
          | _ => finish n (some .disposed)
        | .error e => finish n (some e)
        | _ => feed token last rest (n + 1)

/-- Feeds all ids into the queue and reports how many it delivered. -/
def Production.produce (token : TokenId) (ids : List Nat) : Script Nat :=
  feed token (fun n => finish n none) ids 0

namespace Workload

/-- What the handler does with an item. -/
def handler (w : Workload) (id : Nat) : Script Nat :=
  match w.handle id with
  | .ok => .call (.say (.itemHandled id)) fun _ => .done
  | .failed c => .ret (.failed c)
  | .divisionByZero => .ret (.panicked (.text "attempt to calculate the remainder with a divisor of zero"))

/-- The code of a queue that handles the workload. -/
def code (w : Workload) : Code Nat where
  handler := w.handler
  callback _ _ _ := .done
  cloneFault _ := none

end Workload

end Conveyor
