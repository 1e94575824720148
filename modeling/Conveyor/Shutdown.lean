/-!
# Shutdown

A coordinator turns a request to shut down into a cancelled token and a broadcast. Tokens that share an origin share
their flag. The broadcast keeps the last `retained` signals: a receiver that falls further behind learns how many it
missed, and goes on with the oldest that is kept.

* `Broadcast.Cursor.receive_position`: an attempt to receive moves a position by the signals that it accounts for.
-/

namespace Conveyor

namespace Broadcast

/-- How many signals are kept for slow receivers. -/
def retained : Nat := 8

/-- What one attempt to receive yields. -/
inductive Reception where
  | signal
  | lagged (missed : Nat)
  | empty
  | closed
deriving DecidableEq

/-- A receiver's position: how many of the signals sent so far it has received or been told it missed. -/
structure Cursor where
  position : Nat
deriving DecidableEq

/-- One attempt to receive after `sent` signals; `live` says whether more can come. -/
def Cursor.receive (c : Cursor) (sent : Nat) (live : Bool) : Cursor × Reception :=
  if c.position = sent then (c, if live then .empty else .closed)
  else if c.position + retained < sent then (⟨sent - retained⟩, .lagged (sent - retained - c.position))
  else (⟨c.position + 1⟩, .signal)

/-- How many signals an attempt accounts for. -/
def Reception.count : Reception → Nat
  | .signal => 1
  | .lagged k => k
  | .empty | .closed => 0

/-- An attempt moves the position by what it accounts for. -/
theorem Cursor.receive_position {c : Cursor} {sent : Nat} {live : Bool} (h : c.position ≤ sent) :
    (c.receive sent live).1.position = c.position + (c.receive sent live).2.count ∧
      (c.receive sent live).1.position ≤ sent := by
  by_cases he : c.position = sent
  · cases live <;> simp [Cursor.receive, Reception.count, he]
  · by_cases hl : c.position + retained < sent
    · simp only [Cursor.receive, he, hl, ↓reduceIte, Reception.count]
      simp only [retained] at hl ⊢
      omega
    · simp only [Cursor.receive, he, hl, ↓reduceIte, Reception.count, true_and]
      omega

end Broadcast

/-- The coordinator with all tokens and receivers that were ever made. -/
structure Shutdown where
  /-- The flags that tokens share; the first belongs to the coordinator. -/
  flags : List Bool := [false]
  /-- For each token the number of its flag. -/
  tokens : List Nat := []
  /-- How many signals were broadcast. -/
  sent : Nat := 0
  /-- The receivers; `none` once dropped. The first comes with the coordinator. -/
  receivers : List (Option Broadcast.Cursor) := [some ⟨0⟩]
  /-- Whether the coordinator is still there. -/
  live : Bool := true

namespace Shutdown

def isCancelled (s : Shutdown) (token : Nat) : Bool :=
  match s.tokens[token]? with
  | some f => s.flags[f]?.getD false
  | none => false

/-- Whether the coordinator's own tokens are cancelled. -/
def requested (s : Shutdown) : Bool := s.flags[0]?.getD false

/-- A new receiver, which sees what is broadcast from now on; answers its number. -/
def subscribe (s : Shutdown) : Shutdown × Nat :=
  ({ s with receivers := s.receivers ++ [some ⟨s.sent⟩] }, s.receivers.length)

/-- A token of the coordinator; answers its number. -/
def token (s : Shutdown) : Shutdown × Nat :=
  ({ s with tokens := s.tokens ++ [0] }, s.tokens.length)

/-- A token with a flag of its own; answers its number. -/
def newToken (s : Shutdown) : Shutdown × Nat :=
  ({ s with flags := s.flags ++ [false], tokens := s.tokens ++ [s.flags.length] }, s.tokens.length)

/-- A token that shares the flag of token `n`; answers its number. -/
def cloneToken (s : Shutdown) (n : Nat) : Shutdown × Nat :=
  ({ s with tokens := s.tokens ++ [s.tokens[n]?.getD s.flags.length] }, s.tokens.length)

/-- Cancels token `n` and all that share its flag. -/
def cancel (s : Shutdown) (n : Nat) : Shutdown :=
  match s.tokens[n]? with
  | some f => { s with flags := s.flags.set f true }
  | none => s

/-- Requests a shutdown: the coordinator's tokens are cancelled, then a signal is broadcast. -/
def trigger (s : Shutdown) : Shutdown :=
  { s with flags := s.flags.set 0 true, sent := s.sent + 1 }

/-- One attempt to receive on receiver `n`; `none` if it was dropped. -/
def receive (s : Shutdown) (n : Nat) : Shutdown × Option Broadcast.Reception :=
  match s.receivers[n]? with
  | some (some c) =>
    let (c, r) := c.receive s.sent s.live
    ({ s with receivers := s.receivers.set n (some c) }, some r)
  | _ => (s, none)

def dropReceiver (s : Shutdown) (n : Nat) : Shutdown :=
  { s with receivers := s.receivers.set n none }

/-- The coordinator goes away; its tokens and receivers stay. -/
def drop (s : Shutdown) : Shutdown := { s with live := false }

end Shutdown

end Conveyor
