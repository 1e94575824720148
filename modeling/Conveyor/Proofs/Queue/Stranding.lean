import Conveyor.Proofs.Queue.Fifo
import Conveyor.Proofs.Queue.Poison
import Conveyor.Proofs.Queue.Wakeup
import Mathlib.Data.List.Induction

/-!
# Producers that a poisoned lock strands

A producer that is woken to a poisoned lock comes back with an error: it neither uses the room that it was woken for
nor passes the notification on, and nobody ends adding any more. So from the poisoning on, a producer that waits for
room is released by the take of an item, one producer for one take, and by nothing else short of the disposal.

* `poisoned_release`: how many producers still wait, after any run on a poisoned lock.
* `stranded_producer`: with more producers waiting than items left to take, one waits for ever in front of a buffer
  with room.
-/

namespace Conveyor.Queue

variable {ι : Type}

/-! ## How many sleep -/

/-- The threads that sleep on a condition. -/
def sleepers (c : Condition) (ths : List (Thread ι)) : Nat := ths.countP (·.sleepsOn c)

/-- How many of `n` sleepers on a condition a notification leaves. -/
def Wake.leaves (c : Condition) : Wake → Nat → Nat
  | .nobody, n => n
  | .one c', n => if c' = c then n - 1 else n
  | .all c', n => if c' = c then 0 else n

/-- The single notifications of a condition that are still owed. -/
def State.owed (s : State ι) (c : Condition) : Nat := total (Instr.notifies c) s.stacks

theorem sleepers_eq_zero {c : Condition} {ths : List (Thread ι)} :
    sleepers c ths = 0 ↔ ∀ th ∈ ths, th.asleep ≠ some c := by
  rw [sleepers, List.countP_eq_zero]
  constructor
  · intro h th hth hsleep
    exact h th hth (by simp [Thread.sleepsOn, hsleep])
  · intro h th hth hsleep
    exact h th hth (by simpa [Thread.sleepsOn] using hsleep)

/-- How the number of sleepers changes when one thread does. -/
theorem sleepers_set {c : Condition} {ths : List (Thread ι)} {t : ThreadId} {th : Thread ι} (ht : ths[t]? = some th)
    (th' : Thread ι) :
    sleepers c (ths.set t th') + (th.sleepsOn c).toNat = sleepers c ths + (th'.sleepsOn c).toNat := by
  have hpos : (th.sleepsOn c).toNat ≤ sleepers c ths := by
    cases hs : th.sleepsOn c with
    | false => exact Nat.zero_le _
    | true => exact List.countP_pos_iff.2 ⟨th, List.mem_of_getElem? ht, hs⟩
  obtain ⟨hlt, rfl⟩ := List.getElem?_eq_some_iff.1 ht
  have hset := List.countP_set (p := fun th : Thread ι => th.sleepsOn c) (a := th') hlt
  simp only [sleepers] at hpos ⊢
  rw [hset]
  cases h₁ : ths[t].sleepsOn c <;> cases h₂ : th'.sleepsOn c <;> simp_all

/-- A notification leaves as many sleepers as it says. -/
theorem sleepers_wake {c : Condition} {ths ths' : List (Thread ι)} {sleeper : Option ThreadId} {k : Wake}
    (h : wake ths sleeper k = some ths') : sleepers c ths' = k.leaves c (sleepers c ths) := by
  cases k with
  | nobody =>
    simp only [wake] at h
    split at h <;> cases h
    rfl
  | all c' =>
    have hnone := fun hc : c' = c => sleepers_eq_zero.2 (wake_all (hc ▸ h))
    simp only [wake] at h
    split at h <;> cases h
    by_cases hc : c' = c
    · rw [Wake.leaves, if_pos hc]
      exact hnone hc
    · rw [Wake.leaves, if_neg hc, sleepers, List.countP_map]
      refine List.countP_congr fun th _ => ?_
      simp only [Function.comp_apply]
      split
      · rename_i hs
        have hne : th.asleep = some c' := by simpa [Thread.sleepsOn] using hs
        simp [Thread.sleepsOn, Thread.awake, hne, hc]
      · rfl
  | one c' =>
    simp only [wake] at h
    split at h
    · rename_i hsleeper
      split at h <;> cases h
      rename_i hno
      by_cases hc : c' = c
      · subst hc
        have hzero : sleepers c' ths = 0 := by
          refine sleepers_eq_zero.2 fun th hth hs => hno ?_
          exact List.any_eq_true.2 ⟨th, hth, by simp [Thread.sleepsOn, hs]⟩
        simp [Wake.leaves, hzero]
      · simp [Wake.leaves, hc]
    · split at h
      · rename_i w _ th hw
        split at h <;> cases h
        rename_i hs
        have hset := sleepers_set (c := c) hw th.awake
        have hawake : th.awake.sleepsOn c = false := rfl
        rw [hawake, Bool.toNat_false] at hset
        have hone : th.asleep = some c' := by simpa [Thread.sleepsOn] using hs
        by_cases hc : c' = c
        · subst hc
          have hself : th.sleepsOn c' = true := hs
          rw [hself, Bool.toNat_true] at hset
          simp only [Wake.leaves, if_pos]
          omega
        · have hself : th.sleepsOn c = false := by simp [Thread.sleepsOn, hone, hc]
          rw [hself, Bool.toNat_false] at hset
          simp only [Wake.leaves, if_neg hc]
          omega
      · cases h

/-- Who sleeps after a notification was left alone by it. -/
theorem unchanged_of_wake {c : Condition} {ths ths' : List (Thread ι)} {sleeper : Option ThreadId} {k : Wake}
    {t : ThreadId} {th : Thread ι} (h : wake ths sleeper k = some ths') (ht : ths'[t]? = some th)
    (hsleep : th.asleep = some c) : ths[t]? = some th := by
  cases k with
  | nobody =>
    simp only [wake] at h
    split at h <;> cases h
    exact ht
  | all c' =>
    simp only [wake] at h
    split at h <;> cases h
    rw [List.getElem?_map] at ht
    obtain ⟨th₀, ht₀, rfl⟩ := Option.map_eq_some_iff.1 ht
    split at hsleep
    · cases hsleep
    · rename_i hno
      rw [if_neg hno]
      exact ht₀
  | one c' =>
    simp only [wake] at h
    split at h
    · split at h <;> cases h
      exact ht
    · split at h
      · rename_i w _ th' hw
        split at h <;> cases h
        by_cases hwt : w = t
        · subst hwt
          rw [List.getElem?_set_self (List.getElem?_eq_some_iff.1 hw).1] at ht
          cases ht
          cases hsleep
        · rwa [List.getElem?_set_ne hwt] at ht
      · cases h

/-! ## Acts on a poisoned lock -/

section Acts

variable {u : Setup ι} {sh : Shared ι} {t : ThreadId} {i : Instr ι} {e : Effect ι}

theorem Instr.access?_of_bid {b : Bid ι} (h : i.bid? = some b) : ∃ a, i.access? = some a := by
  cases i with
  | enter b => exact ⟨_, rfl⟩
  | retry b => exact ⟨_, rfl⟩
  | _ => cases h

/-- Nobody begins to wait for room once the lock is poisoned. -/
theorem awake_of_poisoned {ended : ThreadId → Bool} {held : Reply ι} (hact : Act u sh t i e)
    (hp : sh.buffer.poisoned = true) (he : perform u sh ended t held i = some e) : e.asleep ≠ some .notFull := by
  intro hsleep
  cases hact with
  | await hi =>
    obtain ⟨a, ha⟩ := Instr.access?_of_bid hi
    rw [perform_poisoned ha hp] at he
    cases he
  | refuse _ _ _ _ _ hno => rw [hno] at hsleep; cases hsleep
  | other _ _ _ _ _ hwhy =>
    rcases hwhy with hno | ⟨hres, -⟩
    · rw [hno] at hsleep
      cases hsleep
    · rw [hres] at hsleep
      cases hsleep
  | _ => cases hsleep

/-- A take, and nothing else, owes a notification that there is room. -/
theorem Act.takes_notified (hact : Act u sh t i e) :
    e.shared.takes.length = sh.takes.length + load (Instr.notifies .notFull) e.push := by
  have plain : ∀ {p : List (Instr ι)}, (∀ j ∈ p, j.isPlain = true) → load (Instr.notifies .notFull) p = 0 :=
    load_plain fun _ h => Instr.notifies_of_isPlain h
  cases hact with
  | accept => simp [Note.taken?, Instr.notifies]
  | refuse _ _ hsame hpush => rw [hsame.takes, plain hpush]; rfl
  | other _ _ hsame hpush => rw [hsame.takes, plain hpush]; rfl
  | take => simp [Note.taken?, Instr.notifies]
  | start => simp [Note.taken?, Instr.notifies]
  | @call role c next => simp [plain (c.isPlain_instrs sh.now), Instr.notifies]
  | @handled x ending =>
    cases ending <;> simp [Note.taken?, Ending.report, Ending.fault?, raise, Instr.notifies]
  | finish => split <;> simp [Instr.notifies]
  | resolve _ hnews => simp [Note.taken?, plain hnews]
  | complete _ hnews => split <;> simp [plain hnews, Instr.notifies]
  | close _ hnews => simp [Note.taken?, plain hnews, Instr.notifies]
  | _ => simp [Instr.notifies]

theorem Act.stays_closed (hact : Act u sh t i e) (h : sh.buffer.value.isClosed = true) :
    e.shared.buffer.value.isClosed = true := by
  rcases hact.isUp_cases .notFull with heq | ⟨htrue, -⟩
  · exact heq.trans h
  · exact htrue

/-- Who leaves it to be done to wake all that wait for room has closed the queue. -/
theorem Act.closed_of_push (hact : Act u sh t i e) (h : .notifyAll .notFull ∈ e.push) :
    e.shared.buffer.value.isClosed = true := by
  have plain : ∀ {p : List (Instr ι)}, (∀ j ∈ p, j.isPlain = true) → .notifyAll .notFull ∉ p := by
    intro p hp hmem
    have := hp _ hmem
    simp [Instr.isPlain] at this
  cases hact with
  | complete => simp [Buffer.isClosed]
  | close => simp [Buffer.isClosed]
  | refuse _ _ _ hpush => exact absurd h (plain hpush)
  | other _ _ _ hpush => exact absurd h (plain hpush)
  | resolve _ hnews => exact absurd h (plain hnews)
  | @call role c next =>
    rcases List.mem_append.1 h with hcall | hresume
    · exact absurd hcall (plain (c.isPlain_instrs sh.now))
    · simp at hresume
  | @handled x ending => cases ending <;> simp [Ending.report, Ending.fault?, raise] at h
  | finish => split at h <;> simp at h
  | _ => simp at h

/-- What a notification that there is room is for: the single one that was owed, or all at once. -/
theorem Act.wake_notFull (hact : Act u sh t i e) :
    (e.wake = .one .notFull ∧ i.notifies .notFull = 1) ∨ (e.wake = .all .notFull ∧ i = .notifyAll .notFull) ∨
      (i.notifies .notFull = 0 ∧ ∀ n, e.wake.leaves .notFull n = n) := by
  cases hact with
  | @notifyOne c =>
    by_cases hc : c = .notFull
    · subst hc
      exact .inl ⟨rfl, rfl⟩
    · exact .inr (.inr ⟨by simp [Instr.notifies, hc], fun n => by simp [Wake.leaves, hc]⟩)
  | @notifyAll c =>
    by_cases hc : c = .notFull
    · subst hc
      exact .inr (.inl ⟨rfl, rfl⟩)
    · exact .inr (.inr ⟨rfl, fun n => by simp [Wake.leaves, hc]⟩)
  | accept hi => exact .inr (.inr ⟨Instr.notifies_of_bid hi, fun _ => rfl⟩)
  | await hi => exact .inr (.inr ⟨Instr.notifies_of_bid hi, fun _ => rfl⟩)
  | refuse hi _ _ _ hwake =>
    exact .inr (.inr ⟨Instr.notifies_of_bid hi, fun _ => by rw [hwake]; rfl⟩)
  | take hi => exact .inr (.inr ⟨Instr.notifies_of_isSeek hi, fun _ => rfl⟩)
  | idle hi => exact .inr (.inr ⟨Instr.notifies_of_isSeek hi, fun _ => rfl⟩)
  | leave hi => exact .inr (.inr ⟨Instr.notifies_of_isSeek hi, fun _ => rfl⟩)
  | other hi _ _ _ hwake =>
    exact .inr (.inr ⟨Instr.notifies_of_isPlain hi, fun _ => by rw [hwake]; rfl⟩)
  | _ => exact .inr (.inr ⟨rfl, fun _ => rfl⟩)

end Acts

/-! ## Steps on a poisoned lock -/

/-- Whether a choice lets a thread wake up by itself. -/
def Choice.isRouse : Choice ι → Bool
  | .rouse _ => true
  | _ => false

/-- From `s` to `s'`, `k` single notifications that there is room were given; each released a waiting producer as long
as there was one, and if `exact` holds, nothing else released any. -/
structure Releases (s s' : State ι) (k : Nat) (exact : Prop) : Prop where
  given : s'.shared.takes.length + s.owed .notFull = s.shared.takes.length + s'.owed .notFull + k
  atMost : sleepers .notFull s'.threads ≤ sleepers .notFull s.threads - k
  exactly : exact → sleepers .notFull s'.threads = sleepers .notFull s.threads - k

theorem Releases.trans {s s₁ s' : State ι} {k k' : Nat} {p q : Prop} (h : Releases s s₁ k p)
    (h' : Releases s₁ s' k' q) : Releases s s' (k + k') (p ∧ q) := by
  constructor
  · have := h.given
    have := h'.given
    omega
  · have := h.atMost
    have := h'.atMost
    omega
  · rintro ⟨hp, hq⟩
    rw [h'.exactly hq, h.exactly hp, Nat.sub_sub]

section Steps

variable {u : Setup ι} {s s' : State ι} {c : Choice ι} {cs : List (Choice ι)}

theorem Shift.stays_closed {sh sh' : Shared ι} {ss ss' : List (List (Instr ι))} (h : Shift u sh ss sh' ss')
    (hclosed : sh.buffer.value.isClosed = true) : sh'.buffer.value.isClosed = true := by
  cases h with
  | act _ hact => exact hact.stays_closed hclosed
  | same hsame => rw [hsame.buffer, hclosed]
  | _ => exact hclosed

/-- Who has to wake all that wait for room has closed the queue. -/
theorem Reachable.closed_of_notifyAll (h : Reachable u s) :
    ∀ t, .notifyAll .notFull ∈ stackAt s.stacks t → s.shared.buffer.value.isClosed = true := by
  refine h.stack_induction
    (P := fun sh _ st => .notifyAll .notFull ∈ st → sh.buffer.value.isClosed = true) ?_ ?_ ?_ ?_ ?_ ?_
  · intro t hmem
    rw [stackAt_start] at hmem
    split at hmem <;> simp at hmem
  · intro sh sh' t st hsame ih hmem
    rw [hsame.buffer]
    exact ih hmem
  · intro sh t role label script rest ih hmem
    exact ih (by simpa using hmem)
  · intro sh t script _ _ hmem
    simp at hmem
  · intro sh t i rest e hact ih hmem
    rcases List.mem_append.1 hmem with hpush | hrest
    · exact hact.closed_of_push hpush
    · exact hact.stays_closed (ih (List.mem_cons_of_mem _ hrest))
  · intro sh t t' i e st _ hact ih hmem
    exact hact.stays_closed (ih hmem)

/-- What an act on a poisoned lock releases. -/
theorem Reachable.releases_act (h : Reachable u s) (hp : s.shared.buffer.poisoned = true) {t : ThreadId}
    {sleeper : Option ThreadId} (hs : Queue.step u s (.run t sleeper) = some s') :
    ∃ k, Releases s s' k (s'.shared.buffer.value.isClosed = false) := by
  obtain ⟨th, i, rest, e, ths, ht, hawake, hst, he, hwake, rfl⟩ := run_of_step hs
  have hget : s.stacks[t]? = some (i :: rest) := by rw [getElem?_stacks ht, hst]
  have hsound : i.isSound = true := h.sound.head hget
  have hact := act_of_perform hsound he
  have htakes := hact.takes_notified
  have howed := total_set (w := Instr.notifies .notFull) (e.push ++ rest) hget
  rw [load_cons, load_append, ← stacks_of_wake hwake] at howed
  -- the thread neither slept before nor does so now
  have hbefore : th.sleepsOn .notFull = false := by simp [Thread.sleepsOn, hawake]
  have hafter : (th.after rest e).sleepsOn .notFull = false := by
    simpa [Thread.sleepsOn, Thread.after] using awake_of_poisoned hact hp he
  have hset := sleepers_set (c := .notFull) ht (th.after rest e)
  rw [hbefore, hafter, Nat.add_right_cancel_iff] at hset
  have hleft : sleepers .notFull ths = e.wake.leaves .notFull (sleepers .notFull s.threads) := by
    rw [sleepers_wake hwake, hset]
  rcases hact.wake_notFull with ⟨hone, hn⟩ | ⟨hall, rfl⟩ | ⟨hn, hsame⟩
  · refine ⟨1, ?_, ?_, fun _ => ?_⟩
    · simp only [State.owed]
      omega
    · rw [hleft, hone]
      exact Nat.le_refl _
    · rw [hleft, hone]
      rfl
  · have hn : Instr.notifies .notFull (.notifyAll .notFull : Instr ι) = 0 := rfl
    refine ⟨0, ?_, ?_, fun hopen => ?_⟩
    · simp only [State.owed]
      omega
    · rw [hleft, hall]
      exact Nat.zero_le _
    · have hmem : .notifyAll .notFull ∈ stackAt s.stacks t := by
        rw [stackAt_of_getElem? hget]
        exact List.mem_cons_self
      have hclosed := hact.stays_closed (h.closed_of_notifyAll t hmem)
      exact absurd (hclosed.symm.trans hopen) (by decide)
  · refine ⟨0, ?_, ?_, fun _ => ?_⟩
    · simp only [State.owed]
      omega
    · rw [hleft, hsame]
      exact Nat.le_refl _
    · rw [hleft, hsame]
      rfl

/-- What a step on a poisoned lock releases. -/
theorem Reachable.releases_step (h : Reachable u s) (hp : s.shared.buffer.poisoned = true)
    (hs : Queue.step u s c = some s') :
    ∃ k, Releases s s' k (c.isRouse = false ∧ s'.shared.buffer.value.isClosed = false) := by
  cases c with
  | run t sleeper =>
    obtain ⟨k, hgiven, hle, hexact⟩ := h.releases_act hp hs
    exact ⟨k, hgiven, hle, fun hopen => hexact hopen.2⟩
  | rouse t =>
    obtain ⟨th, ht, hsleep, rfl⟩ := rouse_of_step hs
    have hset := sleepers_set (c := .notFull) ht th.awake
    have hawake : th.awake.sleepsOn .notFull = false := rfl
    rw [hawake, Bool.toNat_false] at hset
    refine ⟨0, ?_, ?_, ?_⟩
    · simp only [State.owed]
      rw [stacks_of_awake ht]
      rfl
    · dsimp only
      omega
    · rintro ⟨hno, -⟩
      cases hno
  | answer t script =>
    obtain ⟨th, role, label, rest, ht, hst, rfl⟩ := answer_of_step hs
    have hget : s.stacks[t]? = some (.run role (.pause label) :: rest) := by rw [getElem?_stacks ht, hst]
    have howed := total_set (w := Instr.notifies .notFull) (.run role script :: rest) hget
    simp only [load_cons, Instr.notifies] at howed
    have hset := sleepers_set (c := .notFull) ht { th with stack := .run role script :: rest }
    have hsame : ({ th with stack := .run role script :: rest } : Thread ι).sleepsOn .notFull =
      th.sleepsOn .notFull := rfl
    rw [hsame, Nat.add_right_cancel_iff] at hset
    refine ⟨0, ?_, Nat.le_of_eq hset, fun _ => hset⟩
    simp only [State.owed]
    rw [stacks_of_answer]
    omega
  | spawn script =>
    cases hs
    have hsame : sleepers .notFull (s.spawn script).threads = sleepers .notFull s.threads := by
      simp [sleepers, State.spawn, Thread.sleepsOn]
    have howed : (s.spawn script).owed .notFull = s.owed .notFull := by
      rw [State.owed, stacks_spawn, total_append]
      rfl
    refine ⟨0, ?_, Nat.le_of_eq hsame, fun _ => hsame⟩
    rw [howed]
    rfl
  | _ => cases hs; exact ⟨0, rfl, Nat.le_refl _, fun _ => rfl⟩

/-- What a run on a poisoned lock releases. -/
theorem Reachable.releases (h : Reachable u s) (hp : s.shared.buffer.poisoned = true)
    (he : Queue.execute u s cs = some s') :
    ∃ k, Releases s s' k ((∀ c ∈ cs, c.isRouse = false) ∧ s'.shared.buffer.value.isClosed = false) := by
  induction cs using List.reverseRecOn generalizing s' with
  | nil =>
    cases he
    exact ⟨0, rfl, Nat.le_refl _, fun _ => rfl⟩
  | append_singleton cs c ih =>
    obtain ⟨s₁, he₁, hs⟩ := execute_concat.1 he
    obtain ⟨k, hk⟩ := ih he₁
    have hr₁ := h.execute he₁
    obtain ⟨k', hk'⟩ := hr₁.releases_step (poisoned_of_execute he₁ hp) hs
    obtain ⟨hgiven, hle, hexact⟩ := hk.trans hk'
    refine ⟨k + k', hgiven, hle, ?_⟩
    rintro ⟨hrouse, hopen⟩
    -- what is open in the end was open before the last step
    have hopen₁ : s₁.shared.buffer.value.isClosed = false := by
      by_contra hclosed
      have := (hr₁.shift hs).stays_closed (by simpa using hclosed)
      rw [hopen] at this
      cases this
    refine hexact ⟨⟨fun c' hc' => hrouse c' (List.mem_append_left _ hc'), hopen₁⟩, ?_, hopen⟩
    exact hrouse c (List.mem_append_right _ List.mem_cons_self)

/-- Who waits for room after a step on a poisoned lock waited before, and has not been touched. -/
theorem Reachable.waits_step (h : Reachable u s) (hp : s.shared.buffer.poisoned = true)
    (hs : Queue.step u s c = some s') {t : ThreadId} {th : Thread ι} (ht : s'.threads[t]? = some th)
    (hsleep : th.asleep = some .notFull) : s.threads[t]? = some th := by
  cases c with
  | run t' sleeper =>
    obtain ⟨th', i, rest, e, ths, ht', hawake, hst, he, hwake, rfl⟩ := run_of_step hs
    have hget : s.stacks[t']? = some (i :: rest) := by rw [getElem?_stacks ht', hst]
    have hsound : i.isSound = true := h.sound.head hget
    have hset := unchanged_of_wake hwake ht hsleep
    by_cases htt : t' = t
    · subst htt
      rw [List.getElem?_set_self (List.getElem?_eq_some_iff.1 ht').1] at hset
      cases hset
      exact absurd hsleep (awake_of_poisoned (act_of_perform hsound he) hp he)
    · rwa [List.getElem?_set_ne htt] at hset
  | rouse t' =>
    obtain ⟨th', ht', -, rfl⟩ := rouse_of_step hs
    by_cases htt : t' = t
    · subst htt
      rw [List.getElem?_set_self (List.getElem?_eq_some_iff.1 ht').1] at ht
      cases ht
      cases hsleep
    · rwa [List.getElem?_set_ne htt] at ht
  | answer t' script =>
    obtain ⟨th', role, label, rest, ht', hst, rfl⟩ := answer_of_step hs
    by_cases htt : t' = t
    · subst htt
      rw [List.getElem?_set_self (List.getElem?_eq_some_iff.1 ht').1] at ht
      cases ht
      have hlook := h.willLook th' (List.mem_of_getElem? ht') _ hsleep
      simp [hst, Instr.rechecks] at hlook
    · rwa [List.getElem?_set_ne htt] at ht
  | spawn script =>
    cases hs
    rcases Nat.lt_or_ge t s.threads.length with hlt | hge
    · rwa [State.spawn, List.getElem?_append_left hlt] at ht
    · rw [State.spawn, List.getElem?_append_right hge] at ht
      have hmem := List.mem_of_getElem? ht
      rw [List.mem_singleton.1 hmem] at hsleep
      cases hsleep
  | _ => cases hs; exact ht

/-- Who waits for room after a run on a poisoned lock waited all the time. -/
theorem Reachable.waits (h : Reachable u s) (hp : s.shared.buffer.poisoned = true)
    (he : Queue.execute u s cs = some s') {t : ThreadId} {th : Thread ι} (ht : s'.threads[t]? = some th)
    (hsleep : th.asleep = some .notFull) : s.threads[t]? = some th := by
  induction cs using List.reverseRecOn generalizing s' with
  | nil =>
    cases he
    exact ht
  | append_singleton cs c ih =>
    obtain ⟨s₁, he₁, hs⟩ := execute_concat.1 he
    exact ih he₁ ((h.execute he₁).waits_step (poisoned_of_execute he₁ hp) hs ht hsleep)

/-! ## What is left of the waiting producers -/

/-- On a poisoned lock nobody begins to wait for room, and a waiting producer that is woken comes back with an error at
once. After any run, with no wakeup for room under way: in a closed queue nobody waits; the producers that wait in an
open one are, at the most, those that waited in the beginning less one for every notification that was owed then and
every item taken since, and exactly so many if none woke up by itself. -/
theorem poisoned_release (h : Reachable u s) (hp : s.shared.buffer.poisoned = true)
    (he : execute u s cs = some s') (hstill : Still .notFull s') :
    (∀ (t : ThreadId) (th : Thread ι), s'.threads[t]? = some th → th.asleep = some .notFull →
      s.threads[t]? = some th) ∧
    (∀ t th bid rest, s.threads[t]? = some th → th.asleep = none → th.stack = .retry bid :: rest →
      Answers u s t (.error (.synchronisation Guarded.Access.wait.poisonMessage))) ∧
    (s'.shared.buffer.value.isClosed = true → sleepers .notFull s'.threads = 0) ∧
    sleepers .notFull s'.threads ≤ sleepers .notFull s.threads -
      (s.owed .notFull + (s'.shared.taken.length - s.shared.taken.length)) ∧
    (s'.shared.buffer.value.isClosed = false → (∀ c ∈ cs, c.isRouse = false) →
      sleepers .notFull s'.threads = sleepers .notFull s.threads -
        (s.owed .notFull + (s'.shared.taken.length - s.shared.taken.length))) := by
  have hr := h.execute he
  obtain ⟨k, hgiven, hle, hexact⟩ := h.releases hp he
  have hnone : s'.owed .notFull = 0 := hstill.total_eq_zero
  have htaken : ∀ s : Shared ι, s.taken.length = s.takes.length := fun s => List.length_map ..
  have hmono := (h.takes_grow he).length_le
  rw [hnone] at hgiven
  rw [htaken, htaken]
  have hk : k = s.owed .notFull + (s'.shared.takes.length - s.shared.takes.length) := by omega
  rw [← hk]
  refine ⟨fun t th => h.waits hp he, fun t th bid rest ht hawake hst => ?_, fun hclosed => ?_, hle,
    fun hopen hrouse => hexact ⟨hrouse, hopen⟩⟩
  · exact answers_of_perform ht hawake hst (perform_poisoned rfl hp) rfl rfl rfl
  · refine sleepers_eq_zero.2 fun th hth hsleep => ?_
    have hopen := hr.not_isUp_of_still hstill ⟨th, hth, hsleep⟩
    exact absurd (hclosed.symm.trans hopen) (by decide)

/-- A queue with room for one item, some of whose items cannot be cloned. -/
def sampleFrail : Setup Nat :=
  { sample with
    capacity := some 1
    code := { sample.code with cloneFault := fun x => if x = 8 then some "no copy" else none } }

/-- The worker is at the first item and the second fills the buffer; two clients wait for room when a third looks at
the pending items. -/
def samplePoisoning : List (Choice Nat) :=
  .spawn (.call (.add .owner 7 none) fun _ => .call (.add .owner 8 none) fun _ => .just (.add .owner 9 none)) ::
    runs 1 6 ++ runs 0 4 ++ runs 1 8 ++ .spawn (.just (.add .owner 10 none)) :: runs 2 2 ++
    .spawn (.just .pendingItems) :: runs 3 2

/-- The worker handles both items, and one client is woken. -/
def sampleEmptying : List (Choice Nat) :=
  .answer 0 .done :: runs 0 4 ++ .run 0 (some 1) :: runs 1 3 ++ runs 0 1 ++ .answer 0 .done :: runs 0 4

theorem sample_poisoned_release :
    (after sampleFrail samplePoisoning).shared.buffer.poisoned = true ∧
      execute sampleFrail (after sampleFrail samplePoisoning) sampleEmptying =
        some (after sampleFrail (samplePoisoning ++ sampleEmptying)) ∧
      Still .notFull (after sampleFrail (samplePoisoning ++ sampleEmptying)) ∧
      sleepers .notFull (after sampleFrail samplePoisoning).threads = 2 ∧
      (after sampleFrail samplePoisoning).owed .notFull = 0 ∧
      (after sampleFrail (samplePoisoning ++ sampleEmptying)).shared.taken.length =
        (after sampleFrail samplePoisoning).shared.taken.length + 1 ∧
      sleepers .notFull (after sampleFrail (samplePoisoning ++ sampleEmptying)).threads = 1 := by
  have he : execute sampleFrail (after sampleFrail samplePoisoning) sampleEmptying =
      some (after sampleFrail (samplePoisoning ++ sampleEmptying)) := rfl
  have hstill : Still .notFull (after sampleFrail (samplePoisoning ++ sampleEmptying)) := by decide
  obtain ⟨-, -, -, -, hexact⟩ := poisoned_release (reachable_after sampleFrail samplePoisoning) rfl he hstill
  exact ⟨rfl, he, hstill, rfl, rfl, rfl, hexact rfl (by decide)⟩

/-- A producer that waited for room when the lock was poisoned still waits, with no wakeup under way, in front of a
buffer that is empty and will stay so. -/
theorem stranded_producer :
    Reachable sampleFrail (after sampleFrail (samplePoisoning ++ sampleEmptying)) ∧
      (after sampleFrail (samplePoisoning ++ sampleEmptying)).shared.buffer.poisoned = true ∧
      (∀ c, Still c (after sampleFrail (samplePoisoning ++ sampleEmptying))) ∧
      (∃ th bid rest, (after sampleFrail (samplePoisoning ++ sampleEmptying)).threads[2]? = some th ∧
        th.asleep = some .notFull ∧ th.stack = .retry bid :: rest) ∧
      (after sampleFrail (samplePoisoning ++ sampleEmptying)).shared.buffer.value.items = [] ∧
      (after sampleFrail (samplePoisoning ++ sampleEmptying)).shared.buffer.value.hasRoom sampleFrail.capacity = true := by
  refine ⟨reachable_after .., rfl, fun c => ?_, ⟨_, _, _, rfl, rfl, rfl⟩, rfl, rfl⟩
  cases c <;> decide

end Steps

end Conveyor.Queue
