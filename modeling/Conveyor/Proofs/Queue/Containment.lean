import Conveyor.Proofs.Queue.Disposal
import Conveyor.Proofs.Queue.Poison
import Conveyor.Proofs.Queue.Quiescence
import Conveyor.Proofs.Queue.Stranding

/-!
# A poisoned lock is contained

What takes the state lock only if it is not poisoned is turned away, and everything else goes on as before: whatever the
queue kept in order without regard to the lock, it keeps in order on a poisoned one. Since nothing is accepted any more
(`Reachable.accepted_of_poisoned`), the items that were buffered when the lock was poisoned are all there is to come, and
they come in their order (`Reachable.taken_of_poisoned`).

* `poison_contained`: how a lock becomes poisoned, and all that holds from then on (`Contained`).
-/

namespace Conveyor.Queue

variable {ι : Type}

/-! ## What is still to come -/

section Runs

variable {u : Setup ι} {s s' : State ι} {c : Choice ι} {cs : List (Choice ι)}

/-- Only a bid has an item accepted. -/
theorem Act.acceptances {sh : Shared ι} {t : ThreadId} {i : Instr ι} {e : Effect ι} (hact : Act u sh t i e)
    (hi : i.bid? = none) : e.shared.acceptances = sh.acceptances := by
  cases hact with
  | accept hb => rw [hi] at hb; cases hb
  | refuse hb => rw [hi] at hb; cases hb
  | other _ _ hsame => exact hsame.acceptances
  | take => simp [Note.accepted?]
  | start => simp [Note.accepted?]
  | handled => simp [Note.accepted?]
  | resolve => simp [Note.accepted?]
  | close => simp [Note.accepted?]
  | _ => rfl

theorem Instr.bid?_of_access? {i : Instr ι} (h : i.access? = none) : i.bid? = none := by
  cases i <;> simp_all [access?, bid?]

/-- Nothing is accepted while the lock is poisoned. -/
theorem Reachable.acceptances_of_step (h : Reachable u s) (hp : s.shared.buffer.poisoned = true)
    (hs : Queue.step u s c = some s') : s'.shared.acceptances = s.shared.acceptances := by
  cases c with
  | run t sleeper =>
    obtain ⟨th, i, rest, e, ths, ht, -, hst, he, -, rfl⟩ := run_of_step hs
    cases hi : i.access? with
    | some a =>
      rw [perform_poisoned hi hp] at he
      cases he
      rfl
    | none =>
      have hsound : i.isSound = true := h.sound.head (hst ▸ getElem?_stacks ht)
      exact (act_of_perform hsound he).acceptances (Instr.bid?_of_access? hi)
  | rouse t =>
    obtain ⟨th, -, -, rfl⟩ := rouse_of_step hs
    rfl
  | answer t script =>
    obtain ⟨th, role, label, rest, -, -, rfl⟩ := answer_of_step hs
    rfl
  | _ => cases hs; rfl

/-- Nothing is accepted from the moment on at which the lock is poisoned. -/
theorem Reachable.accepted_of_poisoned (h : Reachable u s) (hp : s.shared.buffer.poisoned = true)
    (he : Queue.execute u s cs = some s') : s'.shared.accepted = s.shared.accepted := by
  have hrun := h.execute_induction
    (P := fun s₁ => s₁.shared.buffer.poisoned = true ∧ s₁.shared.acceptances = s.shared.acceptances)
    (fun hr hs hP => ⟨poisoned_of_step hs hP.1, (hr.acceptances_of_step hP.1 hs).trans hP.2⟩) he ⟨hp, rfl⟩
  exact congrArg (List.map Prod.snd) hrun.2

/-- What is taken from then on, what is abandoned and what is left is, in this order, what was buffered. -/
theorem Reachable.taken_of_poisoned (h : Reachable u s) (hp : s.shared.buffer.poisoned = true)
    (hd : s.shared.buffer.value.disposed = false) (he : Queue.execute u s cs = some s') :
    ∃ xs, s'.shared.taken = s.shared.taken ++ xs ∧
      s.shared.buffer.value.items = xs ++ s'.shared.abandoned ++ s'.shared.buffer.value.items := by
  obtain ⟨ps, hps⟩ := h.takes_grow he
  have htaken : s'.shared.taken = s.shared.taken ++ ps.map Prod.snd := by
    rw [Shared.taken, ← hps, List.map_append]
    rfl
  refine ⟨ps.map Prod.snd, htaken, ?_⟩
  have hnone : s.shared.abandoned = [] := by rw [Shared.abandoned, h.fifo.undisposed hd]; rfl
  have horder := (h.execute he).fifo.order
  rw [h.accepted_of_poisoned hp he, h.fifo.order, hnone, htaken, List.append_nil, List.append_assoc,
    List.append_assoc] at horder
  rw [List.append_assoc]
  exact List.append_cancel_left horder

/-- Once a queue is disposed and the result set, nobody sleeps without a wakeup under way. -/
theorem Reachable.awake_of_disposed (h : Reachable u s) (hd : s.shared.buffer.value.disposed = true)
    (howed : ∀ th ∈ s.threads, ∀ b, .resolve b ∉ th.stack) {k : Condition} (hstill : Still k s) :
    ∀ th ∈ s.threads, th.asleep ≠ some k := by
  intro th hth hsleep
  have hno := h.not_isUp_of_still hstill ⟨th, hth, hsleep⟩
  by_cases hk : k = .resolved
  · subst hk
    obtain ⟨cs, he⟩ := reachable_iff_execute.1 h
    have hnone : s.shared.result = none := by simpa [Condition.isUp] using hno
    obtain ⟨hopen, -⟩ := (result_of_unowed he howed).2.2.1 hnone
    rw [hd] at hopen
    cases hopen
  · rw [k.isUp_of_ne hk, Buffer.isClosed, hd] at hno
    cases hno

end Runs

/-- The disposal of an open queue abandons what is in the buffer. -/
theorem perform_disposal (u : Setup ι) {s : Shared ι} (t : ThreadId) (ended : ThreadId → Bool) (held : Reply ι)
    (hd : s.buffer.value.disposed = false) :
    ∃ e, perform u s ended t held .dispose = some e ∧ e.wake = .nobody ∧
      e.shared = (s.setBuffer s.buffer.value.close).note t
        (.abandoned s.buffer.value.items s.buffer.value.isDrained) := by
  refine ⟨_, by simp only [perform, Guarded.recovered, hd, Bool.false_eq_true, if_false]; rfl, rfl, rfl⟩

/-! ## Containment -/

/-- What holds in `s`, which the choices `cs` led to from the start, if the lock was poisoned in `s₁` before. -/
structure Contained (u : Setup ι) (cs : List (Choice ι)) (s₁ s : State ι) : Prop where
  poisoned : s.shared.buffer.poisoned = true
  /-- Whoever takes the lock, for the first time or again after a wait, comes back with an error and changes nothing. -/
  turnedAway {t : ThreadId} {th : Thread ι} {i : Instr ι} {rest : List (Instr ι)} {a : Guarded.Access} :
    s.threads[t]? = some th → th.asleep = none → th.stack = i :: rest → i.access? = some a →
      ∃ s' th', step u s (.run t none) = some s' ∧ s'.shared = s.shared ∧ s'.threads[t]? = some th' ∧
        th'.stack = rest ∧ th'.reply = .error (.synchronisation a.poisonMessage)
  /-- A call that adds, ends adding or asks for what is pending comes back with that error, and nobody notices. -/
  denied {t : ThreadId} {th : Thread ι} {role : Role ι} {call : Call ι} {next : Reply ι → Script ι}
    {rest : List (Instr ι)} : call.isChecked = true → s.threads[t]? = some th → th.asleep = none →
      th.stack = .run role (.call call next) :: rest →
        Returns u t (Denied s.shared t call (.resume role next :: rest)) 4 s
  reason : s.shared.denied = .synchronisation Guarded.Access.lock.poisonMessage
  /-- Every other instruction does what it would do if the lock were not poisoned. -/
  unaffected {ended : ThreadId → Bool} {t : ThreadId} {held : Reply ι} {i : Instr ι} {sh : Shared ι} :
    i.access? = none → sh.poison = s.shared →
      perform u s.shared ended t held i = (perform u sh ended t held i).map Effect.poison
  accepted : s.shared.accepted = s₁.shared.accepted
  /-- The workers take what was buffered, in its order. -/
  order : ∃ xs, s.shared.taken = s₁.shared.taken ++ xs ∧
    s₁.shared.buffer.value.items = xs ++ s.shared.abandoned ++ s.shared.buffer.value.items
  /-- Each hands to the handler what it takes, in the order in which it takes it. -/
  handed (t : ThreadId) : onThread t s.shared.starts <+: onThread t s.shared.takes
  /-- While there is an item, no worker sleeps without a wakeup under way. -/
  served : Still .notEmpty s → s.shared.buffer.value.items ≠ [] → ∀ th ∈ s.threads, th.asleep ≠ some .notEmpty
  /-- Nobody can go on and an item is left: then every worker is inside client code. -/
  held : Quiescent u s → s.shared.buffer.value.items ≠ [] → ∀ t < u.workers,
    ∃ th, s.threads[t]? = some th ∧ th.isHeld = true
  /-- Nobody can go on and no worker is inside client code: then all that was taken is handled, finished and counted,
  and nothing is left. -/
  finished : Quiescent u s →
    (∀ (t : ThreadId) (th : Thread ι), t < u.workers → s.threads[t]? = some th → th.isHeld = false) →
      s.shared.buffer.value.busy = 0 ∧ s.shared.handled.Perm s.shared.taken ∧
        s.shared.counters.processed + s.shared.counters.failed = s.shared.taken.length ∧
        (0 < u.workers → s.shared.buffer.value.items = [])
  isDisposed {t : ThreadId} {th : Thread ι} {rest : List (Instr ι)} :
    s.threads[t]? = some th → th.asleep = none → th.stack = .isDisposed :: rest →
      Answers u s t (.bool s.shared.buffer.value.disposed)
  isAddingCompleted {t : ThreadId} {th : Thread ι} {rest : List (Instr ι)} :
    s.threads[t]? = some th → th.asleep = none → th.stack = .isAddingCompleted :: rest →
      Answers u s t (.bool s.shared.buffer.value.addingCompleted)
  stats {t : ThreadId} {th : Thread ι} {rest : List (Instr ι)} :
    s.threads[t]? = some th → th.asleep = none → th.stack = .stats :: rest →
      ∃ s', execute u s (runs t 6) = some s' ∧ s'.shared = s.shared ∧ s'.reply? t = some (.stats s.shared.stats)
  /-- A disposal abandons what is left. -/
  dispose {t : ThreadId} {th : Thread ι} {rest : List (Instr ι)} :
    s.threads[t]? = some th → th.asleep = none → th.stack = .dispose :: rest →
      ∃ s', step u s (.run t none) = some s' ∧ s'.shared.buffer.value.disposed = true ∧
        s'.shared.buffer.value.items = [] ∧ s'.shared.abandoned = s.shared.abandoned ++ s.shared.buffer.value.items
  /-- After a disposal nobody sleeps, once no wakeup is under way and the result is set. -/
  awake : s.shared.buffer.value.disposed = true → (∀ th ∈ s.threads, ∀ b, .resolve b ∉ th.stack) →
    ∀ c, Still c s → ∀ th ∈ s.threads, th.asleep ≠ some c
  /-- The result is true if the queue was drained, and false if it was disposed before that. -/
  result : (∀ th ∈ s.threads, ∀ b, .resolve b ∉ th.stack) →
    (s.shared.result = some true ↔ WasDrained u cs) ∧
    (s.shared.result = some false ↔ s.shared.buffer.value.disposed = true ∧ ¬ WasDrained u cs) ∧
    (s.shared.result = none ↔ s.shared.buffer.value.disposed = false ∧ ¬ WasDrained u cs)
  cutShort : s.shared.result = some false → WasCutShort u cs
  /-- Nobody puts off the wakeups and the result. -/
  settled : Quiescent u s → (∀ c, Still c s) ∧ ∀ th ∈ s.threads, ∀ b, .resolve b ∉ th.stack
  once {b : Bool} {cs' : List (Choice ι)} {s' : State ι} :
    s.shared.result = some b → execute u s cs' = some s' → s'.shared.result = some b

section Runs

variable {u : Setup ι} {s₀ s₁ s : State ι} {c : Choice ι} {cs cs₀ cs₁ : List (Choice ι)}

theorem contained_of_poisoned (he₁ : execute u u.start cs₁ = some s₁) (hp₁ : s₁.shared.buffer.poisoned = true)
    (hd₁ : s₁.shared.buffer.value.disposed = false) (he : execute u s₁ cs = some s) :
    Contained u (cs₁ ++ cs) s₁ s := by
  have hr₁ : Reachable u s₁ := Reachable.start.execute he₁
  have hr := hr₁.execute he
  have hp := poisoned_of_execute he hp₁
  have hrun : execute u u.start (cs₁ ++ cs) = some s := by rw [execute_append, he₁]; exact he
  constructor
  case poisoned => exact hp
  case turnedAway =>
    intro t th i rest a ht hawake hst hi
    exact ⟨_, _, step_run ht hawake hst (perform_poisoned hi hp) rfl, rfl,
      List.getElem?_set_self (List.getElem?_eq_some_iff.1 ht).1, rfl, rfl⟩
  case denied =>
    intro t th role call next rest hcall ht hawake hst
    exact bound_denied hcall hst s ⟨hr, .refl (.inl hp), ht, hawake⟩
  case reason => rw [Shared.denied, if_pos hp]
  case unaffected =>
    intro ended t held i sh hi hsh
    rw [← hsh]
    exact perform_poison hi
  case accepted => exact hr₁.accepted_of_poisoned hp₁ he
  case order => exact hr₁.taken_of_poisoned hp₁ hd₁ he
  case handed => exact hr.starts_prefix
  case served =>
    intro hstill hitems th hth hsleep
    obtain ⟨-, hle⟩ := hr.served_of_still (by decide) (by simp) hstill ⟨th, hth, hsleep⟩
    exact hitems (List.length_eq_zero_iff.1 (Nat.le_zero.1 hle))
  case held => exact fun hq hitems t hw => hr.held_of_item hq hitems hw
  case finished => exact hr.handled_of_idle
  case isDisposed => exact fun ht hawake hst => answers_of_perform ht hawake hst rfl rfl rfl rfl
  case isAddingCompleted => exact fun ht hawake hst => answers_of_perform ht hawake hst rfl rfl rfl rfl
  case stats =>
    intro t th rest ht hawake hst
    obtain ⟨th', hex, -, hreply⟩ := execute_stats (u := u) ht hawake hst
    exact ⟨_, hex, rfl, by rw [reply?_set ht, hreply]⟩
  case dispose =>
    intro t th rest ht hawake hst
    by_cases hd : s.shared.buffer.value.disposed = true
    · have hitems := (hr.fifo.disposed hd).1
      exact ⟨_, step_run ht hawake hst (perform_dispose hd) rfl, hd, hitems, by rw [hitems, List.append_nil]⟩
    · obtain ⟨e, hperf, hw, hshared⟩ := perform_disposal u t s.hasEnded th.reply (Bool.eq_false_iff.2 hd)
      refine ⟨_, step_run ht hawake hst hperf hw, ?_⟩
      rw [hshared]
      exact ⟨rfl, rfl, by simp [Note.abandoned?]⟩
  case awake => exact fun hd howed k hstill => hr.awake_of_disposed hd howed hstill
  case result => exact result_of_unowed hrun
  case cutShort => exact fun hfalse => wasCutShort_of_verdict hrun (hr.decided.result hfalse)
  case settled =>
    refine fun hq => ⟨hr.still_of_quiescent hq, fun th hth b hb => ?_⟩
    have hno := hr.unowed_of_quiescent hq th hth _ hb
    cases hno
  case once => exact hr.result_stable

/-- A lock becomes poisoned exactly if a thread looks at the pending items of an open queue and one of them cannot be
cloned. That step panics and leaves all else as it was. From then on, in every state, whoever minds the lock is turned away and
nobody notices; the workers take, handle and finish what was buffered, in its order; and the queue tells its state, is
disposed and comes to its completion as if nothing had happened. -/
theorem poison_contained (he₀ : execute u u.start cs₀ = some s₀) (hs : step u s₀ c = some s₁)
    (hp : s₀.shared.buffer.poisoned = false) :
    (s₁.shared.buffer.poisoned = true ↔ ∃ t sleeper th rest, c = .run t sleeper ∧ Breaks u s₀ t th rest) ∧
    (s₁.shared.buffer.poisoned = true →
      (∃ t m, s₁.shared = s₀.shared.poison.note t .poisoned ∧ s₁.reply? t = some (.panicked (.text m)) ∧
        s₁.shared.buffer.value = s₀.shared.buffer.value ∧ s₁.shared.counters = s₀.shared.counters ∧
        s₁.shared.hub = s₀.shared.hub ∧ s₁.shared.events = s₀.shared.events) ∧
      ∀ cs s, execute u s₁ cs = some s → Contained u (cs₀ ++ c :: cs) s₁ s) := by
  refine ⟨poisoned_iff hs hp, fun hp₁ => ?_⟩
  obtain ⟨t, sleeper, th, rest, rfl, hbreak⟩ := (poisoned_iff hs hp).1 hp₁
  obtain ⟨m, -, hshared, hreply⟩ := hbreak.eq_of_step hp hs
  constructor
  · have hevents : (s₀.shared.poison.note t .poisoned).events = s₀.shared.events := by
      rw [Shared.events, Shared.publications, Shared.entries_note]
      exact congrArg (List.map Prod.snd) (List.append_nil _)
    refine ⟨t, m, hshared, hreply, ?_⟩
    rw [hshared]
    exact ⟨rfl, rfl, rfl, hevents⟩
  · intro cs s he
    have he₁ : execute u u.start (cs₀ ++ [.run t sleeper]) = some s₁ := execute_concat.2 ⟨s₀, he₀, hs⟩
    have hd₁ : s₁.shared.buffer.value.disposed = false := by
      rw [hshared]
      exact hbreak.undisposed
    rw [List.append_cons]
    exact contained_of_poisoned he₁ hp₁ hd₁ he

/-- A client looks at the pending items while another two wait for room; then the worker takes the item that could not
be cloned, and handles it. -/
theorem sample_poison_contained :
    ∃ s₁ s, step sampleFrail (after sampleFrail samplePoisoning.dropLast) (.run 3 none) = some s₁ ∧
      (after sampleFrail samplePoisoning.dropLast).shared.buffer.poisoned = false ∧
      s₁.shared.buffer.poisoned = true ∧ s₁.shared.buffer.value.items = [8] ∧
      execute sampleFrail s₁ sampleEmptying = some s ∧ s.shared.taken = [7, 8] ∧ s.shared.handled = [7, 8] ∧
      Contained sampleFrail (samplePoisoning.dropLast ++ .run 3 none :: sampleEmptying) s₁ s := by
  have he₀ : execute sampleFrail sampleFrail.start samplePoisoning.dropLast =
      some (after sampleFrail samplePoisoning.dropLast) := execute_after rfl
  have hs : step sampleFrail (after sampleFrail samplePoisoning.dropLast) (.run 3 none) =
      some (after sampleFrail samplePoisoning) := rfl
  have he : execute sampleFrail (after sampleFrail samplePoisoning) sampleEmptying =
      some (after sampleFrail (samplePoisoning ++ sampleEmptying)) := rfl
  obtain ⟨-, hfrom⟩ := poison_contained he₀ hs rfl
  exact ⟨_, _, hs, rfl, rfl, rfl, he, rfl, rfl, (hfrom rfl).2 _ _ he⟩

end Runs

end Conveyor.Queue
