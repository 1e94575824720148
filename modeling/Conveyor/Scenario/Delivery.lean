import Conveyor.Production
import Conveyor.Queue.Describe
import Conveyor.Queue.Schedule

/-!
# Deliveries

Producers at work on a queue with a workload's handler: one producer that meets a queue in some state and may be
interrupted, or all producers of a workload until everything is handled.
-/

namespace Conveyor.Scenario

open Queue

/-- The state of the queue that a producer meets. -/
inductive Meeting where
  | opened
  | completed
  | disposed
  | dropped
deriving DecidableEq

/-- When the producer's token is cancelled. -/
inductive Cancellation where
  | never
  | before
  /-- Once the producer waits for room. -/
  | blocked
deriving DecidableEq

/-- What is done to the queue just before the producer comes to an id. -/
structure Interruption where
  index : Nat
  cancel : Bool
  dispose : Bool
  complete : Bool

/-- One producer and its circumstances. -/
structure Delivery where
  ids : List Nat
  capacity : Option Nat
  meeting : Meeting := .opened
  cancellation : Cancellation := .never
  /-- Whether the handler waits until the producer has come to its end. -/
  hold : Bool := false
  interruption : Option Interruption := none

/-- How a delivery went. -/
structure DeliveryReport where
  accepted : Nat
  error : Option QueueError
  /-- The completion result and the statistics, unless the queue was dropped. -/
  closing : Option (Option Bool × Stats)
  handled : List Nat

namespace Delivery

/-- More moves than any delivery takes. -/
def fuel : Nat := 10000000

def token : TokenId := "producer"

def code (d : Delivery) : Code Nat where
  handler _ := if d.hold then .pause "held" else .done
  callback _ _ _ := .done
  cloneFault _ := none

/-- Has a client make one call, and lets everything settle; answers the reply if the client came to its end. -/
def ask (r : Run Nat) (c : Call Nat) : Run Nat × Option (Reply Nat) :=
  let (r, t) := r.spawn (.just c)
  let r := r.settle [t] fuel
  (r, match r.ending? t with
    | some (.returned reply) => some reply
    | _ => none)

def askAll (r : Run Nat) (cs : List (Call Nat)) : Run Nat := cs.foldl (fun r c => (ask r c).1) r

/-- Lets every handler that waits go on, at most `n` times. -/
def freeAll : Nat → Run Nat → Run Nat
  | 0, r => r
  | n + 1, r =>
    match r.pauses with
    | [] => r
    | (t, _) :: _ => freeAll n ((r.choose (.answer t .done)).settle [] fuel)

/-- Completes adding, waits, and disposes of the queue. -/
def close (r : Run Nat) : Run Nat × Option Bool × Stats :=
  let r := askAll r [.completeAdding, .waitBlocking]
  let drained := r.state.shared.result
  let r := askAll r [.dispose]
  (r, drained, r.state.shared.stats)

def run (d : Delivery) : Except BuildFault DeliveryReport :=
  match Built.new d.code 1 d.capacity fun _ => none with
  | .error e => .error e
  | .ok q =>
    let r := (Run.start q).settle [] fuel
    let r := askAll r (match d.meeting with
      | .opened => []
      | .completed => [.completeAdding]
      | .disposed => [.dispose]
      | .dropped => [.drop])
    let r := askAll r (if d.cancellation = .before then [.cancel token] else [])
    let interruption := d.interruption.filter (·.index < d.ids.length)
    let (r, t) := r.spawn (match interruption with
      | some i => Production.feed token (fun _ => .pause "interrupted") (d.ids.take i.index) 0
      | none => Production.produce token d.ids)
    let r := r.settle [t] fuel
    let r := match interruption with
      | some i =>
        if (r.pause? t).isSome then
          let r := askAll r ((if i.cancel then [.cancel token] else []) ++ (if i.dispose then [.dispose] else []) ++
            (if i.complete then [.completeAdding] else []))
          (r.choose (.answer t
            (Production.feed token (fun n => Production.finish n none) (d.ids.drop i.index) i.index))).settle [t] fuel
        else r
      | none => r
    let r := askAll r (if d.cancellation = .blocked then [.cancel token] else [])
    let (accepted, error) : Nat × Option QueueError := match r.ending? t with
      | some (.returned (.accepted n e)) => (n, e)
      | _ => (0, none)
    let r := freeAll (d.ids.length + 1) r
    let (r, closing) : Run Nat × Option (Option Bool × Stats) := match d.meeting with
      | .dropped => (r, none)
      | _ =>
        let (r, drained, stats) := close r
        (r, some (drained, stats))
    .ok
      { accepted, error, closing
        handled := (r.newsSince 0).filterMap fun | .started x => some x | _ => none }

end Delivery

/-- How a whole workload went. -/
structure PipelineReport where
  /-- For each producer how many ids it delivered. -/
  accepted : List Nat
  drained : Option Bool
  stats : Stats
  failed : List Cause
  expectedFailures : Option Nat
  /-- What a subscriber to everything received. -/
  events : List QueueEvent

/-- All producers of a workload at once, until everything is handled and the queue disposed. -/
def pipeline (c : QueueConfig) (w : Workload) : Except BuildFault PipelineReport :=
  match Built.ofConfig c w.code fun _ => none with
  | .error e => .error e
  | .ok q =>
    let r := (Run.start q).settle [] Delivery.fuel
    let r := Delivery.askAll r [.subscribe "all" .all]
    let first := r.state.threads.length
    let r := (List.range w.producers).foldl
      (fun r i => (r.spawn (Production.produce Delivery.token (w.stripe i))).1) r
    let r := r.settle [] Delivery.fuel
    let accepted := (List.range w.producers).map fun i =>
      match r.ending? (first + i) with
      | some (.returned (.accepted n _)) => n
      | _ => 0
    let (r, drained, stats) := Delivery.close r
    let events := (r.state.shared.hub.drain 0).2
    .ok
      { accepted, drained, stats, events
        failed := events.filterMap fun e => e.exception.map (·.cause)
        expectedFailures := w.expectedFailures }

end Conveyor.Scenario
