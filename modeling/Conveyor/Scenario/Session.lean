import Conveyor.Queue.Describe
import Conveyor.Queue.Schedule
import Conveyor.Scenario.Item

/-!
# Sessions

A session leads one queue through a list of actions. Each action is followed by whatever the queue can do without a
further one, and a report says what was to be seen meanwhile.
-/

namespace Conveyor.Scenario

open Queue

/-- How an action waits for the completion. -/
inductive Waiting where
  | timeout (patience : Patience)
  | blocking
  | async
  /-- Only asks whether there is a result. -/
  | resolved
  /-- Only asks for a description. -/
  | describe

inductive Action where
  | add (via : Handle) (item : Item) (token : Option TokenId)
  | tryAdd (via : Handle) (item : Item) (patience : Option Patience)
  /-- Adds items one after the other. -/
  | addMany (items : List Item)
  /-- Lets the handler that waits with an item go on with an act. -/
  | release (label : String) (act : Act)
  /-- Asks for the names of the threads whose handler waits. -/
  | threads
  | complete
  | dispose
  | count
  | pending
  | info
  | newToken
  | cancel (token : TokenId)
  /-- Takes a producer's handle, from the queue or from another handle. -/
  | producer (via : Handle)
  | producerName
  | describeProducer
  /-- Registers the next callback of the scenario. -/
  | onException
  /-- Subscribes under an id and keeps the receiver under a name. -/
  | subscribe (id : String) (filter : EventFilter) (name : String)
  | unsubscribe (id : String)
  /-- Drops a receiver. -/
  | close (name : String)
  | receiverEnd (name : String)
  | wait (how : Waiting)
  | drop

/-- What an action comes back with. -/
inductive Answer where
  | reply (r : Reply Item)
  | pending (count items : Reply Item)
  | info (description : String)
  | text (t : String)
  | names (ns : List String)
  | receiverEnd (e : Option ChannelEnd)
  /-- The action goes on in the background. -/
  | spawned
  | noQueue

/-- What was to be seen during an action and after it. -/
structure Report where
  answer : Answer
  /-- Actions in the background that came to an end. -/
  done : List (String × Answer)
  /-- Items whose handler started. -/
  started : List Item
  /-- Calls of callbacks, with the callback's label. -/
  exceptions : List (String × QueueException)
  /-- What each receiver got. -/
  events : List (String × List QueueEvent)
  /-- The statistics, and whether adding was completed and the queue disposed, while there is a queue. -/
  status : Option (Stats × Bool × Bool)
  completion : Option Bool
  /-- Actions in the background that go on. -/
  blocked : List String
  /-- Whether one of them sleeps on although what it waits for has come. -/
  stuck : Bool

/-- An action in the background. -/
structure Task where
  label : String
  thread : ThreadId
  /-- Whether it keeps the queue from being dropped. -/
  usesOwner : Bool

structure Session where
  run : Run Item
  /-- All callbacks of the scenario. -/
  callbacks : List Callback
  /-- How many of them were registered. -/
  registered : Nat
  owned : Bool := true
  /-- Whether the queue is to be dropped as soon as no task uses it. -/
  dropping : Bool := false
  receivers : List (String × Nat) := []
  tasks : List Task := []

namespace Action

/-- Whether the action cannot be taken without the queue itself. -/
def needsQueue : Action → Bool
  | .add via .. | .tryAdd via .. | .producer via => via = .owner
  | .addMany _ | .complete | .dispose | .count | .pending | .info | .onException | .subscribe .. | .unsubscribe _
  | .drop => true
  | .release .. | .threads | .newToken | .cancel _ | .producerName | .describeProducer | .close _ | .receiverEnd _
  | .wait _ => false

/-- Adds items one after the other; counts those accepted, and keeps the first error. -/
def addEach : List Item → Nat → Option QueueError → Script Item
  | [], n, e => .ret (.returned (.accepted n e))
  | x :: rest, n, e => .call (.add .owner x none) fun
    | .error e' => addEach rest n (e.orElse fun _ => some e')
    | _ => addEach rest (n + 1) e

/-- The script of an action that is carried out by a client; `next` is the number of the next callback. -/
def script? (next : CallbackId) : Action → Option (Script Item)
  | .add via x token => some (.just (.add via x token))
  | .tryAdd via x patience => some (.just (.tryAdd via x patience))
  | .addMany xs => some (addEach xs 0 none)
  | .complete => some (.just .completeAdding)
  | .dispose => some (.call .dispose fun _ => .done)
  | .count => some (.just .pendingCount)
  | .cancel token => some (.call (.cancel token) fun _ => .done)
  | .producerName => some (.just .producerName)
  | .onException => some (.call (.onException next) fun _ => .done)
  | .subscribe id filter _ => some (.call (.subscribe id filter) fun _ => .done)
  | .unsubscribe id => some (.just (.unsubscribe id))
  | .wait (.timeout p) => some (.just (.waitTimeout p))
  | .wait .blocking => some (.just .waitBlocking)
  | .wait .async => some (.just .waitAsync)
  | .release .. | .threads | .pending | .info | .newToken | .producer _ | .describeProducer | .close _ | .receiverEnd _
  | .wait .resolved | .wait .describe | .drop => none

end Action

namespace Session

/-- More moves than any scenario takes. -/
def fuel : Nat := 10000000

/-- A session with a queue that was just built. -/
def start (q : Built Item) (callbacks : List Callback) : Session where
  run := (Run.start q).settle [] fuel
  callbacks := callbacks
  registered := q.setup.callbacks.length

def shared (s : Session) : Shared Item := s.run.state.shared

/-- The reply with which the client on a thread ended. -/
def replyOf (r : Run Item) (t : ThreadId) : Option (Reply Item) :=
  match r.ending? t with
  | some (.returned reply) => some reply
  | some (.panicked p) => some (.panicked p)
  | some (.failed _) => some .unit
  | none => none

/-- Carries out a script and waits for it. -/
def ask (s : Session) (script : Script Item) : Session × Reply Item :=
  let (r, t) := s.run.spawn script
  let r := r.settleFor t fuel
  ({ s with run := r }, (replyOf r t).getD .unit)

def hangUp (s : Session) (channel : Nat) : Session := { s with run := s.run.choose (.hangUp channel) }

/-- Keeps a receiver under a name; an earlier one of that name is dropped. -/
def keep (s : Session) (name : String) (channel : Nat) : Session :=
  let s' := match s.receivers.lookup name with
    | some old => s.hangUp old
    | none => s
  { s' with receivers := s.receivers.filter (·.1 ≠ name) ++ [(name, channel)] }

/-- The threads whose handler waits, with the label of its item. -/
def gated (s : Session) : List (ThreadId × String) := s.run.pauses

/-- Carries out an action that is no more than a look, or has no client of its own. -/
def take (s : Session) : Action → Session × Answer
  | .release label act =>
    match s.gated.find? (·.2 = label) with
    | some (t, _) =>
      ({ s with run := (s.run.choose (.answer t (act.script label))).settle [] fuel }, .reply (.bool true))
    | none => (s, .reply (.bool false))
  | .threads => (s, .names (s.gated.map fun g => s.run.setup.workerName g.1))
  | .pending =>
    let (s, count) := s.ask (.just .pendingCount)
    let (s, items) := s.ask (.just .pendingItems)
    (s, .pending count items)
  | .info => (s, .info (s.run.setup.describe s.shared.stats))
  | .describeProducer =>
    let (s, r) := s.ask (.just .producerName)
    (s, .text (describeProducer (match r with | .name n => n | _ => none)))
  | .close name =>
    match s.receivers.lookup name with
    | some n => ({ s.hangUp n with receivers := s.receivers.filter (·.1 ≠ name) }, .reply (.bool true))
    | none => (s, .reply (.bool false))
  | .receiverEnd name => (s, .receiverEnd ((s.receivers.lookup name).map s.shared.hub.endOf))
  | .wait .resolved => (s, .reply (.bool s.shared.result.isSome))
  | .wait .describe => (s, .text (describeCompletion s.shared.result))
  | .drop => ({ s with owned := false, dropping := true }, .reply .unit)
  | _ => (s, .reply .unit)

/-- Carries out an action, in the background if there is a label for it. -/
def perform (s : Session) (background : Option String) (a : Action) : Session × Answer :=
  if a.needsQueue && !s.owned then (s, .noQueue)
  else
    match a.script? (numberOf s.registered) with
    | none => s.take a
    | some script =>
      let s := match a with
        | .onException => { s with registered := s.registered + 1 }
        | _ => s
      match background with
      | none => let (s, r) := s.ask script; (s, .reply r)
      | some label =>
        let (r, t) := s.run.spawn script
        ({ s with run := r.settle [t] fuel, tasks := s.tasks ++ [⟨label, t, a.needsQueue⟩] }, .spawned)

/-- Drops the queue, if that is due and no task uses it. -/
def dropIfDue (s : Session) : Session :=
  if s.dropping && s.tasks.all (fun k => !k.usesOwner || s.run.hasEnded k.thread) then
    { (s.ask (.just .drop)).1 with dropping := false }
  else s

/-- Keeps the receivers of the subscriptions that were taken out; `name` is for those under its id. -/
def keepAll (s : Session) (name : String → String) (news : List (Note Item)) : Session :=
  news.foldl (fun s n => match n with
    | .subscribed id channel => s.keep (name id) channel
    | _ => s) s

/-- Takes what the receivers have got. -/
def drainAll (s : Session) : Session × List (String × List QueueEvent) :=
  ({ s with run := s.receivers.foldl (fun r n => r.choose (.drain n.2)) s.run },
    s.receivers.map fun n => (n.1, (s.shared.hub.drain n.2).2))

/-- One action, and the report on it. -/
def step (s : Session) (background : Option String) (a : Action) : Session × Report :=
  let old := s.shared.journal.length
  let (s, answer) := s.perform background a
  let s := s.dropIfDue
  let news := s.run.newsSince old
  let name (id : String) : String := match a with
    | .subscribe id' _ name => if id = id' then name else id
    | _ => id
  let s := s.keepAll name news
  let (s, events) := s.drainAll
  let (done, waiting) := s.tasks.partition fun k => s.run.hasEnded k.thread
  let b := s.shared.buffer.recovered
  ({ s with tasks := waiting },
    { answer
      done := done.map fun k => (k.label, .reply ((replyOf s.run k.thread).getD .unit))
      started := news.filterMap fun | .started x => some x | _ => none
      exceptions := news.filterMap fun | .called c e => some (labelOf s.callbacks c, e) | _ => none
      events := events.filter (!·.2.isEmpty)
      status := if s.owned then some (s.shared.stats, b.addingCompleted, b.disposed) else none
      completion := s.shared.result
      blocked := waiting.map (·.label)
      stuck := waiting.any fun k => s.run.isOverlooked k.thread })

end Session

end Conveyor.Scenario
