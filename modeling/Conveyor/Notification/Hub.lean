import Conveyor.Event
import Conveyor.Report

/-!
# Notification hub

A hub hands each published event to every subscription whose filter accepts it. A subscription belongs to an id, has a
channel of its own and a tally of its own; both are numbered and outlive it, because the receiving end and whoever keeps
the tally may look at them after the subscription is gone.

* `mem_failed_iff`: publishing removes exactly the subscriptions that accept the event and whose channel is closed.
* `find?_subscribe`: a new subscription under an id is the one that the id finds.
-/

namespace Conveyor

/-- A channel from the hub to one receiver. -/
structure Channel where
  /-- Sent and not yet received, oldest first. -/
  pending : List QueueEvent := []
  /-- Whether the receiving end still takes events. -/
  isOpen : Bool := true

/-- What the hub counts for one subscription. -/
structure Tally where
  delivered : Nat := 0
  errors : Nat := 0
  /-- Whether there is a time of last delivery. -/
  hasLast : Bool := false

namespace Tally

def recordDelivered (t : Tally) : Tally := { t with delivered := t.delivered + 1, hasLast := true }

def recordError (t : Tally) : Tally := { t with errors := t.errors + 1 }

end Tally

structure Subscription where
  id : String
  filter : EventFilter
  /-- What the subscription is taken out on. -/
  source : String
  channel : Nat
  tally : Nat
deriving DecidableEq

/-- The subscriptions in force, and every channel and tally ever made. -/
structure Hub where
  subscriptions : List Subscription := []
  channels : List Channel := []
  tallies : List Tally := []

/-- Why an event did not reach everybody. -/
inductive NotificationError where
  | publishFailed (type : String) (failed : List String)
deriving DecidableEq

def NotificationError.message : NotificationError → String
  | .publishFailed type failed =>
    s!"Failed to publish {type} event to {failed.length} subscribers: " ++ Text.quoteList failed

instance : Reportable NotificationError where
  display := NotificationError.message
  detail
    | .publishFailed type failed =>
      "PublishFailed \x7b event_type: " ++ Text.quote type ++ ", failed_subscribers: " ++ Text.quoteList failed ++
        " \x7d"
  actionable _ := false
  userMessage _ := none

/-- What the receiving end sees once nothing is pending. -/
inductive ChannelEnd where
  | empty
  | closed
deriving DecidableEq

namespace Hub

def find? (h : Hub) (id : String) : Option Subscription :=
  h.subscriptions.find? (·.id = id)

def count (h : Hub) : Nat := h.subscriptions.length

/-- Whether channel `n` takes events. -/
def isOpen (h : Hub) (n : Nat) : Bool :=
  match h.channels[n]? with
  | some c => c.isOpen
  | none => false

/-- A tally that belongs to no subscription, with its number. -/
def freshTally (h : Hub) : Hub × Nat :=
  ({ h with tallies := h.tallies ++ [{}] }, h.tallies.length)

/-- A new subscription in place of any earlier one under its id; answers the number of its channel. -/
def subscribe (h : Hub) (id : String) (filter : EventFilter) (source : String) : Hub × Nat × List Log.Notice :=
  let s : Subscription := ⟨id, filter, source, h.channels.length, h.tallies.length⟩
  ({ subscriptions := h.subscriptions.filter (·.id ≠ id) ++ [s]
     channels := h.channels ++ [{}]
     tallies := h.tallies ++ [{}] },
   h.channels.length,
   match h.find? id with
   | some old => [.subscriptionReplaced id old.source source]
   | none => [])

/-- Ends the subscription under an id; answers whether there was one. -/
def unsubscribe (h : Hub) (id : String) : Hub × Bool :=
  ({ h with subscriptions := h.subscriptions.filter (·.id ≠ id) }, (h.find? id).isSome)

/-- The subscriptions that an event reaches. -/
def reached (h : Hub) (e : QueueEvent) : List Subscription :=
  h.subscriptions.filter fun s => s.filter.accepts e && h.isOpen s.channel

/-- The subscriptions that an event should reach but whose channel is closed. -/
def failed (h : Hub) (e : QueueEvent) : List Subscription :=
  h.subscriptions.filter fun s => s.filter.accepts e && !h.isOpen s.channel

/-- Hands an event to every subscription that accepts it, and ends those whose channel is closed. -/
def publish (h : Hub) (e : QueueEvent) : Hub × Except NotificationError Unit × List Log.Notice :=
  let reached := h.reached e
  let failed := h.failed e
  ({ subscriptions := h.subscriptions.filter fun s => !(s.filter.accepts e && !h.isOpen s.channel)
     channels := h.channels.mapIdx fun n c =>
       if reached.any (·.channel = n) then { c with pending := c.pending ++ [e] } else c
     tallies := h.tallies.mapIdx fun n t =>
       if reached.any (·.tally = n) then t.recordDelivered
       else if failed.any (·.tally = n) then t.recordError
       else t },
   if failed.isEmpty then .ok () else .error (.publishFailed e.type.name (failed.map (·.id))),
   failed.map fun s => .subscriberRemoved s.id)

/-- What is pending on channel `n`. -/
def pendingOf (h : Hub) (n : Nat) : List QueueEvent :=
  match h.channels[n]? with
  | some c => c.pending
  | none => []

/-- Takes what is pending on channel `n`. -/
def drain (h : Hub) (n : Nat) : Hub × List QueueEvent :=
  ({ h with channels := h.channels.modify n fun c => { c with pending := [] } }, h.pendingOf n)

/-- What the receiver of channel `n` sees once nothing is pending: the channel is closed if either end is gone. -/
def endOf (h : Hub) (n : Nat) : ChannelEnd :=
  if h.isOpen n && h.subscriptions.any (·.channel = n) then .empty else .closed

/-- Takes the oldest event that is pending on channel `n`, or learns that there is none. -/
def receive (h : Hub) (n : Nat) : Hub × Except ChannelEnd QueueEvent :=
  ({ h with channels := h.channels.modify n fun c => { c with pending := c.pending.tail } },
   match h.pendingOf n with
   | e :: _ => .ok e
   | [] => .error (h.endOf n))

/-- The receiving end of channel `n` takes no more events, but keeps what is pending. -/
def close (h : Hub) (n : Nat) : Hub :=
  { h with channels := h.channels.modify n fun c => { c with isOpen := false } }

/-- The receiving end of channel `n` is gone. -/
def hangUp (h : Hub) (n : Nat) : Hub :=
  { h with channels := h.channels.modify n fun _ => ⟨[], false⟩ }

/-- All subscriptions end at once. -/
def shutDown (h : Hub) : Hub := { h with subscriptions := [] }

/-- Publishing removes exactly the subscriptions that accept the event and whose channel is closed. -/
theorem mem_failed_iff {h : Hub} {e : QueueEvent} {s : Subscription} :
    s ∈ h.failed e ↔ s ∈ h.subscriptions ∧ s.filter.accepts e = true ∧ h.isOpen s.channel = false := by
  simp [failed, List.mem_filter]

theorem mem_reached_iff {h : Hub} {e : QueueEvent} {s : Subscription} :
    s ∈ h.reached e ↔ s ∈ h.subscriptions ∧ s.filter.accepts e = true ∧ h.isOpen s.channel = true := by
  simp [reached, List.mem_filter]

/-- A new subscription is the one that its id finds. -/
theorem find?_subscribe (h : Hub) (id : String) (filter : EventFilter) (source : String) :
    (h.subscribe id filter source).1.find? id =
      some ⟨id, filter, source, h.channels.length, h.tallies.length⟩ := by
  have : (h.subscriptions.filter (·.id ≠ id)).find? (·.id = id) = none := by
    simp [List.find?_eq_none]
  simp only [subscribe, find?]
  rw [List.find?_append, this]
  simp

end Hub

end Conveyor
