import Conveyor.Queue.Perform

/-!
# Steps of a queue

A run is a sequence of choices. A choice lets one thread perform its next instruction, lets a sleeping thread wake up
by itself (a time limit, a poll, or no reason at all), or is something that comes from outside: a new client, the end
of a pause, time going by, or the receiving end of a subscription.

* `Reachable`: the states that some sequence of choices leads to.
* `Advances`: one state leads to another without anything from outside.
-/

namespace Conveyor.Queue

variable {ι : Type}

inductive Choice (ι : Type) where
  /-- Thread `t` performs one instruction; if that wakes one of several sleepers, `sleeper` is the one. -/
  | run (t : ThreadId) (sleeper : Option ThreadId)
  /-- Thread `t` wakes up without a notification. -/
  | rouse (t : ThreadId)
  /-- The code on thread `t` ends its pause and goes on with a script. -/
  | answer (t : ThreadId) (script : Script ι)
  /-- A client starts. -/
  | spawn (script : Script ι)
  | tick (ms : Nat)
  /-- The receiver of a channel takes what is pending. -/
  | drain (channel : Nat)
  /-- The receiver of a channel goes away. -/
  | hangUp (channel : Nat)

namespace Thread

/-- Whether the thread sleeps on a condition. -/
def sleepsOn (t : Thread ι) (c : Condition) : Bool := t.asleep = some c

def awake (t : Thread ι) : Thread ι := { t with asleep := none }

end Thread

/-- The threads after a notification; `none` if the chosen sleeper does not fit. -/
def wake (threads : List (Thread ι)) (sleeper : Option ThreadId) : Wake → Option (List (Thread ι))
  | .nobody => if sleeper.isNone then some threads else none
  | .all c =>
    if sleeper.isNone then some (threads.map fun t => if t.sleepsOn c then t.awake else t) else none
  | .one c =>
    match sleeper with
    | none => if threads.any (·.sleepsOn c) then none else some threads
    | some w =>
      match threads[w]? with
      | some t => if t.sleepsOn c then some (threads.set w t.awake) else none
      | none => none

/-- What becomes of a thread by the effect of its top instruction. -/
def Thread.after (t : Thread ι) (rest : List (Instr ι)) (e : Effect ι) : Thread ι where
  stack := e.push ++ rest
  asleep := e.asleep
  reply := e.reply.getD t.reply
  ending := e.ending.orElse fun _ => t.ending

/-- One step; `none` if the choice is not open in this state. -/
def step (u : Setup ι) (s : State ι) : Choice ι → Option (State ι)
  | .run t sleeper =>
    match s.threads[t]? with
    | some th =>
      match th.asleep, th.stack with
      | none, i :: rest =>
        match perform u s.shared s.hasEnded t th.reply i with
        | some e => (wake (s.threads.set t (th.after rest e)) sleeper e.wake).map fun ths => ⟨e.shared, ths⟩
        | none => none
      | _, _ => none
    | none => none
  | .rouse t =>
    match s.threads[t]? with
    | some th => if th.asleep.isSome then some { s with threads := s.threads.set t th.awake } else none
    | none => none
  | .answer t script =>
    match s.threads[t]? with
    | some th =>
      match th.stack with
      | .run role (.pause _) :: rest =>
        some { s with threads := s.threads.set t { th with stack := .run role script :: rest } }
      | _ => none
    | none => none
  | .spawn script => some (s.spawn script)
  | .tick ms => some { s with shared := { s.shared with now := s.shared.now + ms } }
  | .drain n => some { s with shared := { s.shared with hub := (s.shared.hub.drain n).1 } }
  | .hangUp n => some { s with shared := { s.shared with hub := s.shared.hub.hangUp n } }

/-- The states that a queue can come to. -/
inductive Reachable (u : Setup ι) : State ι → Prop where
  | start : Reachable u u.start
  | step {s s' : State ι} {c : Choice ι} : Reachable u s → step u s c = some s' → Reachable u s'

/-- Whether threads can go from one state to another on their own. -/
inductive Advances (u : Setup ι) (s : State ι) : State ι → Prop where
  | refl : Advances u s s
  | run {s₁ s₂ : State ι} {t : ThreadId} {sleeper : Option ThreadId} :
    Advances u s s₁ → step u s₁ (.run t sleeper) = some s₂ → Advances u s s₂
  | rouse {s₁ s₂ : State ι} {t : ThreadId} : Advances u s s₁ → step u s₁ (.rouse t) = some s₂ → Advances u s s₂

namespace Advances

variable {u : Setup ι} {s s₁ s₂ : State ι}

theorem trans (h : Advances u s s₁) (h' : Advances u s₁ s₂) : Advances u s s₂ := by
  induction h' with
  | refl => exact h
  | run _ hs ih => exact ih.run hs
  | rouse _ hs ih => exact ih.rouse hs

theorem reachable (h : Advances u s s₁) (hr : Reachable u s) : Reachable u s₁ := by
  induction h with
  | refl => exact hr
  | run _ hs ih => exact ih.step hs
  | rouse _ hs ih => exact ih.step hs

end Advances

end Conveyor.Queue
