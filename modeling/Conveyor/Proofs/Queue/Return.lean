import Conveyor.Proofs.Queue.Execution
import Conveyor.Proofs.Queue.Move

/-!
# Calls that return whatever the others do

Between two steps of a thread the other threads may do anything; as long as the thread is awake, they can neither take
its next instruction from it nor change the reply that it holds (`thread_of_other`). `Returns u t Q n s` says that
thread `t` goes its way to `Q` in at most `n` steps of its own, each of them open and silent, whatever happens in
between. A call is proved to return by going through its instructions (`Bound.step`), under a condition on the shared
state that every step keeps (`Kept`).
-/

namespace Conveyor.Queue

variable {ι : Type}

/-- Whether a choice lets thread `t` perform an instruction. -/
def Choice.isOf (t : ThreadId) : Choice ι → Bool
  | .run t' _ => t' = t
  | _ => false

theorem Choice.isOf_run {t t' : ThreadId} {sleeper : Option ThreadId} :
    (Choice.run t' sleeper : Choice ι).isOf t = false ↔ t' ≠ t := decide_eq_false_iff_not

/-- Whether the thread's code is in a pause. -/
def Thread.isPaused (th : Thread ι) : Bool :=
  match th.stack with
  | .run _ (.pause _) :: _ => true
  | _ => false

/-- `s'` has the buffer, the counters, the callbacks, the result and the journal of `s`, and nothing more in its
channels. -/
structure Shared.Silent (s s' : Shared ι) : Prop where
  buffer : s'.buffer = s.buffer
  counters : s'.counters = s.counters
  callbacks : s'.callbacks = s.callbacks
  result : s'.result = s.result
  journal : s'.journal = s.journal
  channels : s'.hub.channels = s.hub.channels

theorem Shared.Silent.refl (s : Shared ι) : s.Silent s := ⟨rfl, rfl, rfl, rfl, rfl, rfl⟩

theorem silent_release (s : Shared ι) : s.Silent s.releaseOne := by
  refine ⟨rfl, rfl, rfl, rfl, rfl, ?_⟩
  simp only [Shared.releaseOne]
  split <;> rfl

/-- Thread `t` comes to `Q` in at most `n` steps of its own; each is open and silent, whatever the others do before. -/
def Returns (u : Setup ι) (t : ThreadId) (Q : State ι → Prop) : Nat → State ι → Prop
  | 0, s => Q s
  | n + 1, s =>
    Q s ∨ ∀ cs s₁, (∀ c ∈ cs, c.isOf t = false) → execute u s cs = some s₁ →
      (step u s₁ (.run t none)).isSome = true ∧
        ∀ sleeper s₂, step u s₁ (.run t sleeper) = some s₂ → s₁.shared.Silent s₂.shared ∧ Returns u t Q n s₂

/-! ## What the others leave alone -/

/-- A notification leaves a thread alone that is awake. -/
theorem wake_getElem? {ths ths' : List (Thread ι)} {sleeper : Option ThreadId} {k : Wake} {t : ThreadId}
    {th : Thread ι} (h : wake ths sleeper k = some ths') (ht : ths[t]? = some th) (hawake : th.asleep = none) :
    ths'[t]? = some th := by
  cases k with
  | nobody =>
    simp only [wake] at h
    split at h <;> cases h
    exact ht
  | all c =>
    simp only [wake] at h
    split at h <;> cases h
    simp [ht, Thread.sleepsOn, hawake]
  | one c =>
    simp only [wake] at h
    split at h
    · split at h <;> cases h
      exact ht
    · split at h
      · rename_i w _ th' hw
        split at h
        · rename_i hsleep
          cases h
          have hne : w ≠ t := by
            rintro rfl
            rw [ht] at hw
            cases hw
            simp [Thread.sleepsOn, hawake] at hsleep
          rw [List.getElem?_set_ne hne, ht]
        · cases h
      · cases h

section Thread

variable {u : Setup ι} {s s' : State ι} {c : Choice ι} {t : ThreadId} {th : Thread ι}

/-- What the others do leaves a thread alone that is awake and in no pause. -/
theorem thread_of_other (hs : step u s c = some s') (hc : c.isOf t = false) (ht : s.threads[t]? = some th)
    (hawake : th.asleep = none) (hpause : th.isPaused = false) : s'.threads[t]? = some th := by
  cases c with
  | run t' sleeper =>
    have hne : t' ≠ t := Choice.isOf_run.1 hc
    obtain ⟨th', i, rest, e, ths, -, -, -, -, hw, rfl⟩ := run_of_step hs
    exact wake_getElem? hw (by rw [List.getElem?_set_ne hne, ht]) hawake
  | rouse t' =>
    obtain ⟨th', ht', hsleep, rfl⟩ := rouse_of_step hs
    have hne : t' ≠ t := by
      rintro rfl
      rw [ht] at ht'
      cases ht'
      simp [hawake] at hsleep
    rw [List.getElem?_set_ne hne, ht]
  | answer t' script =>
    obtain ⟨th', role, label, rest, ht', hst, rfl⟩ := answer_of_step hs
    have hne : t' ≠ t := by
      rintro rfl
      rw [ht] at ht'
      cases ht'
      simp [Thread.isPaused, hst] at hpause
    rw [List.getElem?_set_ne hne, ht]
  | spawn script =>
    cases hs
    exact (List.getElem?_append_left (List.getElem?_eq_some_iff.1 ht).1).trans ht
  | _ => cases hs; exact ht

/-- A step of a thread that wakes nobody. -/
theorem eq_of_step_run {rest : List (Instr ι)} {i : Instr ι} {e : Effect ι} {sleeper : Option ThreadId}
    (ht : s.threads[t]? = some th) (hawake : th.asleep = none) (hst : th.stack = i :: rest)
    (he : perform u s.shared s.hasEnded t th.reply i = some e) (hw : e.wake = .nobody)
    (hs : step u s (.run t sleeper) = some s') : s' = ⟨e.shared, s.threads.set t (th.after rest e)⟩ := by
  simp only [step, ht, hawake, hst, he, hw, wake] at hs
  split at hs
  · exact (Option.some.inj hs).symm
  · cases hs

end Thread

/-! ## Going through a call -/

/-- A condition on the shared state that every step keeps. -/
def Kept (u : Setup ι) (I : Shared ι → Prop) : Prop :=
  ∀ {s s' : State ι} {c : Choice ι}, Reachable u s → step u s c = some s' → I s.shared → I s'.shared

/-- Thread `t` is awake at `th`, in a state that can be come to and where the condition holds. -/
structure At (u : Setup ι) (I : Shared ι → Prop) (t : ThreadId) (th : Thread ι) (s : State ι) : Prop where
  reachable : Reachable u s
  kept : I s.shared
  thread : s.threads[t]? = some th
  awake : th.asleep = none

/-- From `th` on, thread `t` comes to `Q` within `n` steps of its own, in any state where the condition holds. -/
def Bound (u : Setup ι) (I : Shared ι → Prop) (t : ThreadId) (Q : State ι → Prop) (n : Nat) (th : Thread ι) : Prop :=
  ∀ s, At u I t th s → Returns u t Q n s

section Bound

variable {u : Setup ι} {I : Shared ι → Prop} {t : ThreadId} {Q : State ι → Prop} {n : Nat} {th : Thread ι}
  {rest : List (Instr ι)} {i : Instr ι}

theorem At.others {s s' : State ι} {cs : List (Choice ι)} (h : At u I t th s) (hI : Kept u I)
    (hpause : th.isPaused = false) (hcs : ∀ c ∈ cs, c.isOf t = false) (he : execute u s cs = some s') :
    At u I t th s' := by
  induction cs generalizing s with
  | nil => exact Option.some.inj he ▸ h
  | cons c cs ih =>
    rw [execute_cons, Option.bind_eq_some_iff] at he
    obtain ⟨s₁, hs, he⟩ := he
    have hthread := thread_of_other hs (hcs c List.mem_cons_self) h.thread h.awake hpause
    exact ih ⟨h.reachable.step hs, hI h.reachable hs h.kept, hthread, h.awake⟩
      (fun c' hc' => hcs c' (List.mem_cons_of_mem _ hc')) he

/-- One more step: it is open and silent wherever the condition holds, and the thread comes to `Q` from where it leads
to. -/
theorem Bound.step (hI : Kept u I) (hst : th.stack = i :: rest) (hpause : th.isPaused = false)
    (hstep : ∀ s : State ι, I s.shared → ∃ e, perform u s.shared s.hasEnded t th.reply i = some e ∧
      e.wake = .nobody ∧ e.asleep = none ∧ s.shared.Silent e.shared ∧
      ∀ s', At u I t (th.after rest e) s' → s'.shared = e.shared → Returns u t Q n s') :
    Bound u I t Q (n + 1) th := by
  intro s h
  refine .inr fun cs s₁ hcs he => ?_
  have h₁ := h.others hI hpause hcs he
  obtain ⟨e, hperf, hw, hasleep, hsilent, hnext⟩ := hstep s₁ h₁.kept
  have hrun := step_run h₁.thread h₁.awake hst hperf hw
  refine ⟨by rw [hrun]; rfl, fun sleeper s₂ hs₂ => ?_⟩
  have heq := eq_of_step_run h₁.thread h₁.awake hst hperf hw hs₂
  subst heq
  refine ⟨hsilent, hnext _ ⟨h₁.reachable.step hrun, hI h₁.reachable hrun h₁.kept, ?_, hasleep⟩ rfl⟩
  exact List.getElem?_set_self (List.getElem?_eq_some_iff.1 h₁.thread).1

/-- What is bound under a condition is bound under a stronger one. -/
theorem Bound.mono {I' : Shared ι → Prop} (h : Bound u I t Q n th) (hI : ∀ s, I' s → I s) : Bound u I' t Q n th :=
  fun s hs => h s ⟨hs.reachable, hI _ hs.kept, hs.thread, hs.awake⟩

/-- Nothing more to do. -/
theorem Returns.done {s : State ι} (h : Q s) : Returns u t Q n s := by
  cases n with
  | zero => exact h
  | succ n => exact .inl h

end Bound

end Conveyor.Queue
