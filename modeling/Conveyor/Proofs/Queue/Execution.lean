import Conveyor.Queue.Step

/-!
# Runs as sequences of choices

`execute` performs a sequence of choices. A state is reachable exactly if some sequence leads to it
(`reachable_iff_execute`); a run can be cut at any of its states (`execute_append`), so that laws can speak of what came
before a state and of what comes after it.
-/

namespace Conveyor.Queue

variable {ι : Type} {u : Setup ι} {s s' : State ι} {c : Choice ι} {cs cs' : List (Choice ι)}

/-- The state after a sequence of choices; `none` if one of them is not open. -/
def execute (u : Setup ι) (s : State ι) : List (Choice ι) → Option (State ι)
  | [] => some s
  | c :: cs => (step u s c).bind (execute u · cs)

@[simp] theorem execute_nil : execute u s [] = some s := rfl

@[simp] theorem execute_cons : execute u s (c :: cs) = (step u s c).bind (execute u · cs) := rfl

/-- A run, and then another from where the first has led to. -/
theorem execute_append : execute u s (cs ++ cs') = (execute u s cs).bind (execute u · cs') := by
  induction cs generalizing s with
  | nil => rfl
  | cons c cs ih =>
    rw [List.cons_append, execute_cons, execute_cons]
    cases step u s c with
    | none => rfl
    | some s₁ => exact ih

/-- The last choice of a run. -/
theorem execute_concat : execute u s (cs ++ [c]) = some s' ↔
    ∃ s₁, execute u s cs = some s₁ ∧ step u s₁ c = some s' := by
  simp [execute_append, Option.bind_eq_some_iff]

/-- Runs lead from reachable states to reachable states. -/
theorem Reachable.execute (h : Reachable u s) (he : execute u s cs = some s') : Reachable u s' := by
  induction cs generalizing s with
  | nil => exact Option.some.inj he ▸ h
  | cons c cs ih =>
    rw [execute_cons, Option.bind_eq_some_iff] at he
    obtain ⟨s₁, hs, he⟩ := he
    exact ih (h.step hs) he

/-- What every step from a reachable state keeps, a whole run keeps. -/
theorem Reachable.execute_induction {P : State ι → Prop} (h : Reachable u s)
    (keep : ∀ {s s' c}, Reachable u s → Queue.step u s c = some s' → P s → P s')
    (he : Queue.execute u s cs = some s') (hs : P s) : P s' := by
  induction cs generalizing s with
  | nil => exact Option.some.inj he ▸ hs
  | cons c cs ih =>
    rw [execute_cons, Option.bind_eq_some_iff] at he
    obtain ⟨s₁, hs₁, he⟩ := he
    exact ih (h.step hs₁) he (keep h hs₁ hs)

/-- The states that a queue can come to are those that some sequence of choices leads to. -/
theorem reachable_iff_execute : Reachable u s ↔ ∃ cs, Queue.execute u u.start cs = some s := by
  constructor
  · intro h
    induction h with
    | start => exact ⟨[], rfl⟩
    | step _ hs ih =>
      obtain ⟨cs, he⟩ := ih
      exact ⟨cs ++ [_], execute_concat.2 ⟨_, he, hs⟩⟩
  · rintro ⟨cs, he⟩
    exact Reachable.start.execute he

/-- The state that a sequence of choices leads to from the start; the start itself if one of them is not open. -/
def after (u : Setup ι) (cs : List (Choice ι)) : State ι := (execute u u.start cs).getD u.start

theorem reachable_after (u : Setup ι) (cs : List (Choice ι)) : Reachable u (after u cs) := by
  unfold after
  cases h : execute u u.start cs with
  | none => exact .start
  | some s => exact Reachable.start.execute h

theorem execute_after (h : (execute u u.start cs).isSome = true) : execute u u.start cs = some (after u cs) := by
  obtain ⟨s, hs⟩ := Option.isSome_iff_exists.1 h
  rw [after, hs, Option.getD_some]

/-! ## Steps of one thread -/

/-- A step of one thread that wakes nobody. -/
theorem step_run {t : ThreadId} {th : Thread ι} {rest : List (Instr ι)} {i : Instr ι} {e : Effect ι}
    (ht : s.threads[t]? = some th) (hawake : th.asleep = none) (hst : th.stack = i :: rest)
    (he : perform u s.shared s.hasEnded t th.reply i = some e) (hw : e.wake = .nobody) :
    step u s (.run t none) = some ⟨e.shared, s.threads.set t (th.after rest e)⟩ := by
  simp [step, ht, hawake, hst, he, hw, wake]

/-- The reply that a thread holds once it is written. -/
theorem reply?_set {sh : Shared ι} {t : ThreadId} {th th' : Thread ι} (ht : s.threads[t]? = some th) :
    (⟨sh, s.threads.set t th'⟩ : State ι).reply? t = some th'.reply := by
  rw [State.reply?, List.getElem?_set_self (List.getElem?_eq_some_iff.1 ht).1, Option.map_some]

/-! ## A sample queue -/

/-- A queue of numbers with one worker and room for two items, whose handler pauses. -/
def sample : Setup Nat where
  name := "sample"
  workers := 1
  capacity := some 2
  code := { handler := fun _ => .pause "handler", callback := fun _ _ _ => .done, cloneFault := fun _ => none }
  callbacks := []

/-- Thread `t` performs `n` instructions that wake nobody. -/
def runs (t : ThreadId) (n : Nat) : List (Choice ι) := List.replicate n (.run t none)

end Conveyor.Queue
