import Conveyor.Queue.State

/-!
# What one instruction does

`perform` gives the effect of an instruction: the shared state after it, what the thread has to do next, the reply it
holds, whether it falls asleep, and whom it wakes. `none` says that the instruction has to wait for something that is
no condition variable: client code that pauses, a thread that has not ended, a watch channel that is not set.

A section under the state lock is one instruction. What follows after the lock is released (the change of a counter, a
notification, the call of a callback, the publication of an event) is one instruction each.
-/

namespace Conveyor.Queue

variable {ι : Type}

/-- Whom an instruction wakes. -/
inductive Wake where
  | nobody
  | one (c : Condition)
  | all (c : Condition)
deriving DecidableEq

structure Effect (ι : Type) where
  shared : Shared ι
  /-- What the thread does next, before the rest of its stack. -/
  push : List (Instr ι) := []
  /-- The reply that the thread holds from now on, if that changes. -/
  reply : Option (Reply ι) := none
  ending : Option (Ending ι) := none
  asleep : Option Condition := none
  wake : Wake := .nobody

namespace Shared

def note (s : Shared ι) (self : ThreadId) (n : Note ι) : Shared ι :=
  { s with journal := (self, n) :: s.journal }

def noteAll (s : Shared ι) (self : ThreadId) (ns : List (Note ι)) : Shared ι :=
  ns.foldl (fun s n => s.note self n) s

def setBuffer (s : Shared ι) (b : Buffer ι) : Shared ι := { s with buffer := s.buffer.set b }

/-- One strong reference less; with the last one all subscriptions end. -/
def releaseOne (s : Shared ι) : Shared ι :=
  { s with
    strong := s.strong - 1
    hub := if s.strong ≤ 1 then s.hub.shutDown else s.hub }

/-- How often a callback has been called so far. -/
def callsOf (s : Shared ι) (callback : CallbackId) : Nat :=
  s.journal.countP fun
    | (_, .called c _) => c = callback
    | _ => false

end Shared

/-- What raising an exception takes: the counter first, the event last. -/
def raise (e : QueueException) : List (Instr ι) :=
  [.bump (match e.kind with | .handler => .failed | .add => .rejected) 1, .say (.raised e), .dispatch e,
    .publish (.ofException e)]

/-- Reading a snapshot of the counters, one after the other. -/
def loads : List (Instr ι) :=
  [.load .enqueued, .load .processed, .load .failed, .load .rejected, .load .abandoned]

/-- The instructions of a call. -/
def Call.instrs (now : Nat) : Call ι → List (Instr ι)
  | .add .owner x token => [.enter ⟨x, false, none, token⟩]
  | .add .producer x token => [.upgrade [.enter ⟨x, false, none, token⟩] (.error .disposed)]
  | .tryAdd via x patience =>
    let deadline := match patience with
      | none => some now
      | some (.ms n) => some (now + n)
      | some .forever => none
    match via with
    | .owner => [.enter ⟨x, true, deadline, none⟩]
    | .producer => [.upgrade [.enter ⟨x, true, deadline, none⟩] (.error .disposed)]
  | .completeAdding => [.completeAdding]
  | .dispose => [.dispose]
  | .drop => [.dispose, .disown]
  | .pendingCount => [.pendingCount]
  | .pendingItems => [.pendingItems]
  | .stats => [.stats]
  | .isDisposed => [.isDisposed]
  | .isAddingCompleted => [.isAddingCompleted]
  | .onException callback => [.register callback]
  | .subscribe id filter => [.subscribe id filter]
  | .unsubscribe id => [.unsubscribe id]
  | .result => [.result]
  | .waitBlocking => [.awaitResult none]
  | .waitTimeout (.ms n) => [.awaitResult (some (now + n))]
  | .waitTimeout .forever => [.awaitResult none]
  | .waitAsync => [.awaitWatch]
  | .cancel token => [.cancel token]
  | .isCancelled token => [.isCancelled token]
  | .producerName => [.upgrade [] (.name none)]
  | .say n => [.say n]

/-- One look at an open state lock for a bid: accept, refuse, give up, or sleep until there may be room. -/
def look (u : Setup ι) (s : Shared ι) (self : ThreadId) (bid : Bid ι) : Effect ι :=
  let b := s.buffer.recovered
  let refuse (cause : QueueError) : Effect ι :=
    let e : QueueException := ⟨.add, u.name, .queue cause⟩
    { shared := s.note self (.raised e)
      push := raise e ++ [.reply (if bid.trying then .bool false else .unit)] }
  if b.disposed then refuse .disposed
  else if b.addingCompleted then refuse .addingCompleted
  else if b.hasRoom u.capacity then
    { shared := (s.setBuffer { b with items := b.items ++ [bid.item] }).note self (.accepted bid.item)
      push := [.bump .enqueued 1, .notifyOne .notEmpty, .reply (if bid.trying then .bool true else .unit)] }
  else if bid.token.any (· ∈ s.cancelled) then
    { shared := s, reply := some (if bid.trying then .bool false else .error .cancelled) }
  else if bid.deadline.any (· ≤ s.now) then
    { shared := s
      reply := some (if bid.trying then .bool false
        else .error (.operationFailed "enqueue timed out without a deadline")) }
  else { shared := s, push := [.retry bid], asleep := some .notFull }

/-- One look at the state lock for an item: take the oldest, leave, or sleep until there may be one. -/
def seek (u : Setup ι) (s : Shared ι) (self : ThreadId) : Effect ι :=
  let b := s.buffer.recovered
  let leave : Effect ι := { shared := s, push := [.say (.workerStopped u.name self), .release] }
  if b.disposed then leave
  else
    match b.items with
    | x :: rest =>
      { shared := (s.setBuffer { b with items := rest, busy := b.busy + 1 }).note self (.taken x)
        push := [.notifyOne .notFull, .start x, .finish] }
    | [] =>
      if b.addingCompleted then leave
      else { shared := s, push := [.retake], asleep := some .notEmpty }

/-- How client code that has ended is followed up. -/
def followUp (u : Setup ι) (s : Shared ι) (self : ThreadId) (ending : Ending ι) : Role ι → Effect ι
  | .handler x =>
    let s := s.note self (.handled x ending)
    let fail (c : Cause) : Effect ι :=
      let e : QueueException := ⟨.handler, u.name, c⟩
      { shared := s.note self (.raised e), push := raise e }
    match ending with
    | .returned _ => { shared := s, push := [.bump .processed 1] }
    | .failed c => fail c
    | .panicked p => fail (.queue (.handlerPanicked p.message))
  | .callback e =>
    match ending with
    | .panicked _ => { shared := s, push := [.say (.callbackPanicked e)] }
    | _ => { shared := s }
  | .client => { shared := s, ending := some ending }

/-- The first text with which one of the items panics when all are cloned in order. -/
def firstFault (u : Setup ι) (xs : List ι) : Option String := xs.findSome? u.code.cloneFault

/-- The effect of an instruction on thread `self`, which holds `held` as the reply to its last call. -/
def perform (u : Setup ι) (s : Shared ι) (ended : ThreadId → Bool) (self : ThreadId) (held : Reply ι) :
    Instr ι → Option (Effect ι)
  | .run role (.ret e) => some (followUp u s self e role)
  | .run role (.call c next) => some { shared := s, push := c.instrs s.now ++ [.resume role next], reply := some .unit }
  | .run _ (.pause _) => none
  | .resume role next => some { shared := s, push := [.run role (next held)] }
  | .upgrade [] dead => some { shared := s, reply := some (if s.strong = 0 then dead else .name (some u.name)) }
  | .upgrade call dead =>
    some (if s.strong = 0 then { shared := s, reply := some dead }
      else { shared := { s with strong := s.strong + 1 }, push := call ++ [.release] })
  | .release => some { shared := s.releaseOne }
  | .disown => some { shared := if s.owned then { s.releaseOne with owned := false } else s }
  | .enter bid =>
    match s.buffer.checked .lock QueueError.synchronisation with
    | .error e => some { shared := s, reply := some (.error e) }
    | .ok b => some (if b.disposed then { shared := s, reply := some (.error .disposed) } else look u s self bid)
  | .retry bid =>
    match s.buffer.checked .wait QueueError.synchronisation with
    | .error e => some { shared := s, reply := some (.error e) }
    | .ok _ => some (look u s self bid)
  | .bump c n => some { shared := { s with counters := s.counters.add c n } }
  | .notifyOne c => some { shared := s, wake := .one c }
  | .notifyAll c => some { shared := s, wake := .all c }
  | .say n => some { shared := s.note self (.said n) }
  | .dispatch e => some { shared := s, push := s.callbacks.map (Instr.invoke · e) }
  | .invoke c e =>
    some
      { shared := s.note self (.called c e)
        push := [.run (.callback e) (u.code.callback c (s.callsOf c) e)] }
  | .publish e =>
    let (hub, r, notices) := s.hub.publish e
    some
      { shared := ({ s with hub := hub }.note self (.published e)).noteAll self (notices.map .said)
        push := match r with
          | .ok _ => []
          | .error err => [.say (.publishFailed u.name err.message)] }
  | .take => some (seek u s self)
  | .retake => some (seek u s self)
  | .start x => some { shared := s.note self (.started x), push := [.run (.handler x) (u.code.handler x)] }
  | .finish =>
    let b := s.buffer.recovered
    let b := { b with busy := b.busy - 1 }
    some { shared := s.setBuffer b, push := (if b.isDrained then [.resolve true] else []) ++ [.take] }
  | .resolve drained =>
    some (if s.result.isSome then { shared := s }
      else
        { shared := { s with result := some drained }.note self (.resolved drained)
          push := [.notifyAll .resolved, .setWatch drained] ++
            if drained then [.say (.drained u.name), .publish { type := .completed, queue := u.name }] else [] })
  | .setWatch drained => some { shared := { s with watch := some drained } }
  | .completeAdding =>
    match s.buffer.checked .lock QueueError.synchronisation with
    | .error e => some { shared := s, reply := some (.error e) }
    | .ok b =>
      some (if b.disposed then { shared := s, reply := some (.error .disposed) }
        else
          let b' := { b with addingCompleted := true }
          { shared := s.setBuffer b'
            push := [.notifyAll .notEmpty, .notifyAll .notFull] ++
              (if b.addingCompleted then []
                else
                  [.publish { type := .addingCompleted, queue := u.name, size := some b.items.length },
                    .say (.addingEnded u.name)]) ++
              (if b'.isDrained then [.resolve true] else []) ++ [.reply .unit] })
  | .dispose =>
    let b := s.buffer.recovered
    some (if b.disposed then { shared := s, reply := some .unit }
      else
        { shared :=
            (s.setBuffer { b with items := [], disposed := true }).note self (.abandoned b.items b.isDrained)
          push := [.notifyAll .notEmpty, .notifyAll .notFull, .bump .abandoned b.items.length,
            .resolve b.isDrained, .say (.disposed u.name b.items.length),
            .publish { type := .disposed, queue := u.name, size := some b.items.length }, .takeHandles] })
  | .takeHandles =>
    some
      { shared := { s with handles := [] }
        push := (s.handles.filter (· ≠ self)).map Instr.join ++ [.reply .unit] }
  | .join t => if ended t then some { shared := s } else none
  | .pendingCount =>
    match s.buffer.checked .lock QueueError.synchronisation with
    | .error e => some { shared := s, reply := some (.error e) }
    | .ok b =>
      some { shared := s, reply := some (if b.disposed then .error .disposed else .count b.items.length) }
  | .pendingItems =>
    match s.buffer.checked .lock QueueError.synchronisation with
    | .error e => some { shared := s, reply := some (.error e) }
    | .ok b =>
      some (if b.disposed then { shared := s, reply := some (.error .disposed) }
        else
          match firstFault u b.items with
          | some m =>
            { shared := { s with buffer := { s.buffer with poisoned := true } }.note self .poisoned
              reply := some (.panicked (.text m)) }
          | none => { shared := s, reply := some (.items b.items) })
  | .stats =>
    let b := s.buffer.recovered
    some { shared := s, push := loads, reply := some (.stats { pending := b.items.length, active := b.busy }) }
  | .load c =>
    some
      { shared := s
        reply := match held with
          | .stats st => some (.stats { st with toCounters := st.toCounters.set (s.counters.get c) c })
          | _ => none }
  | .isDisposed => some { shared := s, reply := some (.bool s.buffer.recovered.disposed) }
  | .isAddingCompleted => some { shared := s, reply := some (.bool s.buffer.recovered.addingCompleted) }
  | .register c => some { shared := { s with callbacks := s.callbacks ++ [c] } }
  | .subscribe id filter =>
    let (hub, n, notices) := s.hub.subscribe id filter ("queue:" ++ u.name)
    some
      { shared := ({ s with hub := hub }.note self (.subscribed id n)).noteAll self (notices.map .said)
        reply := some (.channel n) }
  | .unsubscribe id =>
    let (hub, found) := s.hub.unsubscribe id
    some { shared := { s with hub := hub }, reply := some (.bool found) }
  | .result => some { shared := s, reply := some (.completion s.result) }
  | .awaitResult deadline =>
    some (match s.result with
      | some b => { shared := s, reply := some (.completion (some b)) }
      | none =>
        if deadline.any (· ≤ s.now) then { shared := s, reply := some (.completion none) }
        else { shared := s, push := [.awaitResult deadline], asleep := some .resolved })
  | .awaitWatch =>
    match s.watch with
    | some b => some { shared := s, reply := some (.completion (some b)) }
    | none => none
  | .cancel t => some { shared := { s with cancelled := t :: s.cancelled } }
  | .isCancelled t => some { shared := s, reply := some (.bool (t ∈ s.cancelled)) }
  | .reply r => some { shared := s, reply := some r }

end Conveyor.Queue
