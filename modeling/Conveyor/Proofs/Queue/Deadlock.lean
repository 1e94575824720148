import Conveyor.Proofs.Queue.Joining
import Conveyor.Proofs.Queue.Locking
import Mathlib.Logic.Relation

/-!
# Disposing never deadlocks

`WaitsFor s t t'` says that thread `t` is inside an operation and cannot go on before `t'` has done something: ended,
given a notification, set the watch channel, or let go of a lock. In a disposed queue whoever cannot go on waits for
somebody (`Locked.waits_or_moves`), and whoever is waited for is nearer to the ground (`WaitsFor.rank_lt`): the thread
that waits for the workers waits for others than itself, nobody waits for it, whoever owes a notification waits for a
lock at most, and whoever is under a lock waits for nothing.

* `disposal_deadlock_free`: all this of a disposed queue, with what has been done before anybody waits for a worker.
-/

namespace Conveyor.Queue

variable {ι : Type}

/-! ## Waiting -/

namespace Instr

/-- Whether the instruction, or what it leaves, wakes threads that sleep on a condition. -/
def wakes (c : Condition) : Instr ι → Bool
  | .notifyOne c' | .notifyAll c' => c' = c
  | .resolve _ => c = .resolved
  | _ => false

/-- Whether the instruction, or what it leaves, sets the watch channel. -/
def shows : Instr ι → Bool
  | .resolve _ | .setWatch _ => true
  | _ => false

theorem isUrgent_of_wakes {i : Instr ι} {c : Condition} (h : i.wakes c = true) : i.isUrgent = true := by
  cases i <;> simp_all [wakes, isUrgent]

theorem isUrgent_of_shows {i : Instr ι} (h : i.shows = true) : i.isUrgent = true := by
  cases i <;> simp_all [shows, isUrgent]

/-- How far a thread is from going on by what it does next: one that waits for a worker is behind those that wait for
something else, and these are behind those that want a lock. -/
def rank : Instr ι → Nat
  | .join _ => 3
  | .awaitWatch => 2
  | i => if i.lock?.isSome then 1 else 0

theorem rank_of_lock {i : Instr ι} (h : i.lock?.isSome = true) : i.rank = 1 := by
  unfold rank
  split
  · cases h
  · cases h
  · exact if_pos h

theorem rank_of_isSwift {i : Instr ι} (h : i.isSwift = true) : i.rank ≤ 1 := by
  unfold rank
  split
  · cases h
  · cases h
  · split <;> omega

theorem rank_le (i : Instr ι) : i.rank ≤ 2 ∨ ∃ w, i = .join w := by
  unfold rank
  split
  · exact .inr ⟨_, rfl⟩
  · exact .inl (Nat.le_refl 2)
  · exact .inl (by split <;> omega)

end Instr

/-- Thread `t` cannot go on before thread `t'` has done something. -/
inductive WaitsFor (s : Locked ι) (t t' : ThreadId) : Prop
  /-- It waits for the end of a worker. -/
  | worker (hfree : s.isFree t = true) (hnext : s.next? t = some (.join t')) (hrun : s.queue.hasEnded t' = false)
  /-- It sleeps, for room, for an item or for the completion. -/
  | notification {th : Thread ι} {c : Condition} {i : Instr ι} (ht : s.queue.threads[t]? = some th)
      (hsleep : th.asleep = some c) (hi : i ∈ stackAt s.queue.stacks t') (hwakes : i.wakes c = true)
  /-- It waits for the completion on the watch channel. -/
  | watch {i : Instr ι} (hfree : s.isFree t = true) (hnext : s.next? t = some .awaitWatch)
      (hwatch : s.queue.shared.watch = none) (hi : i ∈ stackAt s.queue.stacks t') (hshows : i.shows = true)
  /-- It wants a lock. -/
  | lock {i : Instr ι} {l : Lock} {k : Holder} (hfree : s.isFree t = true) (hnext : s.next? t = some i)
      (hl : i.lock? = some l) (hheld : s.held l = some k) (hholder : k.thread = t')

namespace Locked

/-- How far a thread is from going on. -/
def rank (s : Locked ι) (t : ThreadId) : Nat :=
  if s.isFree t then (if s.queue.isAsleep t then 2 else ((s.next? t).map Instr.rank).getD 0) else 0

/-- Whether a thread goes on as soon as it is let, or is kept by nothing but its own code. -/
def goesOn (u : Setup ι) (s : Locked ι) (t : ThreadId) : Prop :=
  (∃ m s', m.isOf t = true ∧ s.step u m = some s') ∨
    ∃ th, s.queue.threads[t]? = some th ∧ th.isPaused = true

end Locked

section Reachable

variable {u : Setup ι} {s : State ι} {t t' : ThreadId}

/-- Whoever owes something to others is awake, and what comes next can be performed. -/
theorem Reachable.swift_of_urgent (h : Reachable u s) {i : Instr ι} (hi : i ∈ stackAt s.stacks t)
    (hurgent : i.isUrgent = true) :
    ∃ th j rest, s.threads[t]? = some th ∧ th.asleep = none ∧ th.stack = j :: rest ∧ j.isSwift = true := by
  cases ht : s.threads[t]? with
  | none => simp [stackAt, State.stacks, ht] at hi
  | some th =>
    have hprompt := h.prompt t
    rw [stackAt_of_getElem? (getElem?_stacks ht)] at hi hprompt
    cases hst : th.stack with
    | nil => rw [hst] at hi; cases hi
    | cons j rest =>
      have hj : j.isSwift = true := by
        by_contra hno
        rw [hst, prompt_cons, if_neg hno] at hprompt
        rw [hprompt i (hst ▸ hi)] at hurgent
        cases hurgent
      refine ⟨th, j, rest, rfl, ?_, hst, hj⟩
      by_contra hsleep
      obtain ⟨c, hc⟩ := Option.ne_none_iff_exists'.1 hsleep
      have hlook := h.willLook th (List.mem_of_getElem? ht) c hc
      rw [hst, List.head?_cons, Option.any_some] at hlook
      rw [Instr.isSwift_of_rechecks hlook] at hj
      cases hj

/-- Only the thread that disposed the queue waits for workers: for those whose handles are there, and never for
itself. -/
theorem Closing.joiner {d : ThreadId} {rest : List (Instr ι)} (hc : Closing u d rest s) {i : Instr ι}
    (hi : i ∈ stackAt s.stacks t) (hjoin : i.isJoining = true) :
    t = d ∧ (i = .takeHandles → s.shared.handles = List.range u.workers) ∧ i ≠ .join t := by
  have hparting := Instr.isParting_of_isJoining hjoin
  obtain rfl : t = d := by
    by_contra hne
    rw [hc.others t hne i hi] at hparting
    cases hparting
  have hbelow : i ∉ rest := fun hmem => by
    rw [hc.below i hmem] at hparting
    cases hparting
  refine ⟨rfl, ?_⟩
  cases hc.leaving with
  | taking hst hp hhandles =>
    refine ⟨fun _ => hhandles, ?_⟩
    rintro rfl
    rw [hst] at hi
    rcases List.mem_append.1 hi with hi | hi
    · cases hp _ hi
    · rcases List.mem_cons.1 hi with hi | hi
      · cases hi
      · exact hbelow hi
  | joining hst hws =>
    rw [hst] at hi
    rcases List.mem_append.1 hi with hi | hi
    · obtain ⟨w, hw, rfl⟩ := List.mem_map.1 hi
      exact ⟨fun heq => (by cases heq), fun heq => (hws w hw).2 (by cases heq; rfl)⟩
    · rcases List.mem_cons.1 hi with rfl | hi
      · cases hjoin
      · exact absurd hi hbelow
  | back hno =>
    rw [hno i hi] at hparting
    cases hparting

theorem Reachable.closing_of_joining (h : Reachable u s) {i : Instr ι} (hi : i ∈ stackAt s.stacks t)
    (hjoin : i.isJoining = true) : ∃ d rest, Closing u d rest s := by
  refine h.closing ?_
  by_contra hopen
  have hno := (h.unparted (Bool.eq_false_iff.2 hopen)).2 t i hi
  rw [Instr.isParting_of_isJoining hjoin] at hno
  cases hno

/-- A thread that waits for a worker owes nothing to others. -/
theorem Reachable.not_urgent_of_join (h : Reachable u s) {w : ThreadId} {rest : List (Instr ι)}
    (hst : stackAt s.stacks t = .join w :: rest) {i : Instr ι} (hi : i ∈ stackAt s.stacks t) :
    i.isUrgent ≠ true := by
  intro hurgent
  obtain ⟨th, j, below, ht, -, hth, hj⟩ := h.swift_of_urgent hi hurgent
  rw [stackAt_of_getElem? (getElem?_stacks ht), hth] at hst
  cases hst
  cases hj

/-- Before anybody waits for a worker, the result is set, and those that slept for room or for an item have been
woken. -/
theorem Reachable.settled_of_join (h : Reachable u s) {w : ThreadId} {rest : List (Instr ι)}
    (hst : stackAt s.stacks t = .join w :: rest) :
    s.shared.result.isSome = true ∧ ∀ th ∈ s.threads, th.asleep ≠ some .notFull ∧ th.asleep ≠ some .notEmpty := by
  have hi : .join w ∈ stackAt s.stacks t := hst ▸ List.mem_cons_self
  obtain ⟨d, below, hc⟩ := h.closing_of_joining hi rfl
  obtain ⟨rfl, -⟩ := hc.joiner hi rfl
  constructor
  · by_contra hnone
    obtain ⟨b, hb⟩ := hc.resolved (Option.not_isSome_iff_eq_none.1 hnone)
    exact h.not_urgent_of_join hst hb rfl
  · intro th hth
    have howed : ∀ c ≠ .resolved, th.asleep ≠ some c := fun c hc' hsleep =>
      h.not_urgent_of_join hst (hc.roused c hc' ⟨th, hth, hsleep⟩) rfl
    exact ⟨howed .notFull (by decide), howed .notEmpty (by decide)⟩

end Reachable

section Locked

variable {u : Setup ι} {s : Locked ι} {t t' : ThreadId} {i : Instr ι}

namespace Locked

theorem mem_of_next? (hi : s.next? t = some i) : i ∈ stackAt s.queue.stacks t := by
  obtain ⟨th, rest, ht, -, hst⟩ := next?_eq_some.1 hi
  rw [stackAt_of_getElem? (getElem?_stacks ht), hst]
  exact List.mem_cons_self

theorem rank_next (hfree : s.isFree t = true) (hi : s.next? t = some i) : s.rank t = i.rank := by
  obtain ⟨th, rest, ht, hawake, -⟩ := next?_eq_some.1 hi
  simp [rank, hfree, State.isAsleep, ht, hawake, hi]

theorem rank_asleep {th : Thread ι} {c : Condition} (hfree : s.isFree t = true) (ht : s.queue.threads[t]? = some th)
    (hsleep : th.asleep = some c) : s.rank t = 2 := by
  simp [rank, hfree, State.isAsleep, ht, hsleep]

theorem rank_held {l : Lock} {k : Holder} (hheld : s.held l = some k) : s.rank k.thread = 0 := by
  simp [rank, not_isFree.2 ⟨l, k, hheld, rfl⟩]

/-- Whoever owes something to others wants a lock at most. -/
theorem rank_of_urgent (h : Reachable u s.queue) (hi : i ∈ stackAt s.queue.stacks t) (hurgent : i.isUrgent = true) :
    s.rank t ≤ 1 := by
  obtain ⟨th, j, rest, ht, hawake, hst, hj⟩ := h.swift_of_urgent hi hurgent
  by_cases hfree : s.isFree t = true
  · rw [rank_next hfree (next?_eq_some.2 ⟨th, rest, ht, hawake, hst⟩)]
    exact Instr.rank_of_isSwift hj
  · simp [rank, hfree]

/-- Only a thread that waits for a worker has the highest rank. -/
theorem rank_le (s : Locked ι) (t : ThreadId) : s.rank t ≤ 2 ∨ ∃ w, .join w ∈ stackAt s.queue.stacks t := by
  unfold rank
  split
  · split
    · exact .inl (Nat.le_refl 2)
    · cases hi : s.next? t with
      | none => exact .inl (Nat.zero_le 2)
      | some i =>
        rcases i.rank_le with hle | ⟨w, rfl⟩
        · exact .inl hle
        · exact .inr ⟨w, mem_of_next? hi⟩
  · exact .inl (Nat.zero_le 2)

/-- A thread that sleeps is under no lock. -/
theorem Orderly.isFree_of_asleep (ho : s.Orderly) {th : Thread ι} {c : Condition}
    (ht : s.queue.threads[t]? = some th) (hsleep : th.asleep = some c) : s.isFree t = true := by
  rw [isFree_iff]
  rintro l k hk rfl
  obtain ⟨th', ht', hawake⟩ := ho.awake l k hk
  cases ht.symm.trans ht'
  rw [hsleep] at hawake
  cases hawake

end Locked

/-- Whoever is waited for is nearer to going on than those that wait. -/
theorem WaitsFor.rank_lt (hw : WaitsFor s t t') (h : Reachable u s.queue) (ho : s.Orderly) : s.rank t' < s.rank t := by
  cases hw with
  | worker hfree hnext =>
    have hrank : s.rank t = 3 := Locked.rank_next hfree hnext
    have hi := Locked.mem_of_next? hnext
    obtain ⟨d, below, hc⟩ := h.closing_of_joining hi rfl
    obtain ⟨rfl, -, hself⟩ := hc.joiner hi rfl
    rcases s.rank_le t' with hle | ⟨w, hw⟩
    · omega
    · obtain ⟨rfl, -⟩ := hc.joiner hw rfl
      exact absurd rfl hself
  | notification ht hsleep hi hwakes =>
    have hrank := Locked.rank_asleep (ho.isFree_of_asleep ht hsleep) ht hsleep
    have hle := Locked.rank_of_urgent h hi (Instr.isUrgent_of_wakes hwakes)
    omega
  | watch hfree hnext _ hi hshows =>
    have hrank : s.rank t = 2 := Locked.rank_next hfree hnext
    have hle := Locked.rank_of_urgent h hi (Instr.isUrgent_of_shows hshows)
    omega
  | lock hfree hnext hl hheld hholder =>
    have hrank := Locked.rank_next hfree hnext
    rw [Instr.rank_of_lock (by rw [hl]; rfl)] at hrank
    have hzero := Locked.rank_held hheld
    rw [hholder] at hzero
    omega

/-- No thread waits for itself, through whichever others. -/
theorem Locked.waitsFor_acyclic (h : Reachable u s.queue) (ho : s.Orderly) (t : ThreadId) :
    ¬ Relation.TransGen (WaitsFor s) t t := by
  intro hcycle
  have hlt : ∀ {t t'}, Relation.TransGen (WaitsFor s) t t' → s.rank t' < s.rank t := by
    intro t t' hpath
    induction hpath with
    | single hw => exact hw.rank_lt h ho
    | tail _ hw ih => exact (hw.rank_lt h ho).trans ih
  exact Nat.lt_irrefl _ (hlt hcycle)

/-- A thread that sleeps in a disposed queue waits for one that is to wake it. -/
theorem Locked.waits_of_asleep (h : Reachable u s.queue) (hd : s.queue.shared.buffer.value.disposed = true)
    {th : Thread ι} {c : Condition} (ht : s.queue.threads[t]? = some th) (hasleep : th.asleep = some c) :
    ∃ t', WaitsFor s t t' := by
  obtain ⟨d, below, hc⟩ := h.closing hd
  have hsleeper : ∃ th ∈ s.queue.threads, th.asleep = some c := ⟨th, List.mem_of_getElem? ht, hasleep⟩
  by_cases hcr : c = .resolved
  · subst hcr
    cases hres : s.queue.shared.result with
    | none =>
      obtain ⟨b, hb⟩ := hc.resolved hres
      exact ⟨d, .notification ht hasleep hb rfl⟩
    | some b =>
      obtain ⟨t', ht'⟩ := h.roused hsleeper (by simp [Condition.isUp, hres])
      exact ⟨t', .notification ht hasleep ht' (by simp [Instr.wakes])⟩
  · exact ⟨d, .notification ht hasleep (hc.roused c hcr hsleeper) (by simp [Instr.wakes])⟩

/-- A thread that waits in vain on the watch channel of a disposed queue waits for one that is to set it. -/
theorem Locked.waits_of_watch (h : Reachable u s.queue) (hd : s.queue.shared.buffer.value.disposed = true)
    (hfree : s.isFree t = true) (hnext : s.next? t = some .awaitWatch) (hwatch : s.queue.shared.watch = none) :
    ∃ t', WaitsFor s t t' := by
  obtain ⟨d, below, hc⟩ := h.closing hd
  cases hres : s.queue.shared.result with
  | none =>
    obtain ⟨b, hb⟩ := hc.resolved hres
    exact ⟨d, .watch hfree hnext hwatch hb rfl⟩
  | some b =>
    rcases h.watched.due hres with hshown | ⟨t', ht'⟩
    · rw [hwatch] at hshown
      cases hshown
    · exact ⟨t', .watch hfree hnext hwatch ht' rfl⟩

/-- In a disposed queue a thread has ended and is under no lock, or it goes on, or it waits for another. -/
theorem Locked.waits_or_moves (h : Reachable u s.queue) (ho : s.Orderly)
    (hd : s.queue.shared.buffer.value.disposed = true) {th : Thread ι} (ht : s.queue.threads[t]? = some th) :
    (th.stack = [] ∧ s.isFree t = true) ∨ s.goesOn u t ∨ ∃ t', WaitsFor s t t' := by
  by_cases hfree : s.isFree t = true
  · cases hst : th.stack with
    | nil => exact .inl ⟨rfl, hfree⟩
    | cons i rest =>
      right
      cases hasleep : th.asleep with
      | some c => exact .inr (waits_of_asleep h hd ht hasleep)
      | none =>
        have hnext : s.next? t = some i := next?_eq_some.2 ⟨th, rest, ht, hasleep, hst⟩
        cases hl : i.lock? with
        | some l =>
          cases hheld : s.held l with
          | some k => exact .inr ⟨k.thread, .lock hfree hnext hl hheld rfl⟩
          | none =>
            refine .inl (.inl ⟨.lock t, s.put l (some ⟨t, false⟩), by simp [Move.isOf], ?_⟩)
            simp [Locked.step, hnext, hl, hfree, hheld]
        | none =>
          cases he : perform u s.queue.shared s.queue.hasEnded t th.reply i with
          | some e =>
            obtain ⟨sleeper, q, hq⟩ := step_of_perform ht hasleep hst he
            have hpermits : s.permits t i = true :=
              (permits_free hl).2 fun l k hk hkt => absurd hkt (isFree_iff.1 hfree l k hk)
            refine .inl (.inl ⟨.choose (.run t sleeper), s.after t i q, by simp [Move.isOf, Choice.isOf], ?_⟩)
            simp [Locked.step, hnext, hpermits, hq]
          | none =>
            rcases waits_of_perform he with ⟨role, label, rfl⟩ | ⟨w, rfl, hrun⟩ | ⟨rfl, hwatch⟩
            · exact .inl (.inr ⟨th, ht, by simp [Thread.isPaused, hst]⟩)
            · exact .inr ⟨w, .worker hfree hnext hrun⟩
            · exact .inr (waits_of_watch h hd hfree hnext hwatch)
  · obtain ⟨l, k, hk, rfl⟩ := not_isFree.1 (Bool.eq_false_iff.2 hfree)
    exact .inr (.inl (.inl (ho.holder_moves hk)))

/-- Nobody waits for a thread that has ended, unless it is still under a lock. -/
theorem WaitsFor.unended (hw : WaitsFor s t t') : s.queue.hasEnded t' = false ∨ s.isFree t' = false := by
  have hmem : ∀ {i : Instr ι}, i ∈ stackAt s.queue.stacks t' → s.queue.hasEnded t' = false := by
    intro i hi
    by_contra hended
    rw [State.hasEnded_iff.1 (Bool.eq_true_of_not_eq_false hended)] at hi
    cases hi
  cases hw with
  | worker _ _ hrun => exact .inl hrun
  | notification _ _ hi => exact .inl (hmem hi)
  | watch _ _ _ hi => exact .inl (hmem hi)
  | lock _ _ _ hheld hholder => exact .inr (Locked.not_isFree.2 ⟨_, _, hheld, hholder⟩)

/-- From a thread that has not ended one comes, along those that are waited for, to a thread that goes on. -/
theorem Locked.leads_on (h : Reachable u s.queue) (ho : s.Orderly)
    (hd : s.queue.shared.buffer.value.disposed = true) (hrun : s.queue.hasEnded t = false ∨ s.isFree t = false) :
    ∃ t', Relation.ReflTransGen (WaitsFor s) t t' ∧ s.goesOn u t' := by
  -- the rank goes down on the way
  induction hn : s.rank t using Nat.strong_induction_on generalizing t with
  | _ n ih =>
    subst hn
    cases ht : s.queue.threads[t]? with
    | none =>
      rcases hrun with hrun | hheld
      · rw [State.hasEnded_eq_isEmpty, stackAt, State.stacks, List.getElem?_map, ht] at hrun
        cases hrun
      · obtain ⟨l, k, hk, rfl⟩ := not_isFree.1 hheld
        obtain ⟨th, ht', -⟩ := ho.awake l k hk
        cases ht.symm.trans ht'
    | some th =>
      rcases waits_or_moves h ho hd ht with ⟨hst, hfree⟩ | hgoes | ⟨t', hw⟩
      · rw [State.hasEnded_eq_isEmpty, stackAt_of_getElem? (getElem?_stacks ht), hst, hfree] at hrun
        rcases hrun with hrun | hrun <;> cases hrun
      · exact ⟨t, .refl, hgoes⟩
      · obtain ⟨t'', hpath, hgoes⟩ := ih _ (hw.rank_lt h ho) hw.unended rfl
        exact ⟨t'', .head hw hpath, hgoes⟩

/-- Nobody waits for a thread that waits for a worker. -/
theorem Locked.not_waitsFor (h : Reachable u s.queue) {w : ThreadId} {rest : List (Instr ι)}
    (hst : stackAt s.queue.stacks t = .join w :: rest) (hfree : s.isFree t = true) : ¬ WaitsFor s t' t := by
  intro hwaits
  have hi : .join w ∈ stackAt s.queue.stacks t := hst ▸ List.mem_cons_self
  obtain ⟨d, below, hc⟩ := h.closing_of_joining hi rfl
  obtain ⟨rfl, -⟩ := hc.joiner hi rfl
  cases hwaits with
  | worker _ hnext =>
    obtain ⟨rfl, -, hself⟩ := hc.joiner (mem_of_next? hnext) rfl
    exact hself rfl
  | notification _ _ hi hwakes => exact h.not_urgent_of_join hst hi (Instr.isUrgent_of_wakes hwakes)
  | watch _ _ _ hi hshows => exact h.not_urgent_of_join hst hi (Instr.isUrgent_of_shows hshows)
  | lock _ _ _ hheld hholder => exact isFree_iff.1 hfree _ _ hheld hholder

end Locked

/-! ## The one call that waits for workers -/

/-- What thread `t` does to wait for the workers: it takes the handles of all, and waits for each but itself. -/
def ordeal (u : Setup ι) (t : ThreadId) : List (Instr ι) :=
  .takeHandles :: ((List.range u.workers).filter (· ≠ t)).map .join

/-- How much of that thread `t` has ahead by an instruction. -/
def Instr.ahead (u : Setup ι) (t : ThreadId) : Instr ι → List (Instr ι)
  | .takeHandles => ordeal u t
  | .join w => [.join w]
  | _ => []

/-- How much of it thread `t` has performed. -/
def joinings (t : ThreadId) (ds : List (Deed ι)) : List (Instr ι) :=
  ((deedsOf t ds).map Deed.instr).filter Instr.isJoining

section Joinings

variable {u : Setup ι} {s s' : State ι} {c : Choice ι} {t : ThreadId} {ds ds' : List (Deed ι)}

theorem joinings_append : joinings t (ds ++ ds') = joinings t ds ++ joinings t ds' := by
  simp [joinings, deedsOf]

theorem joinings_run {sleeper : Option ThreadId} {i : Instr ι} {rest : List (Instr ι)}
    (hst : stackAt s.stacks t = i :: rest) :
    joinings t (s.deed? (.run t sleeper)).toList = [i].filter Instr.isJoining := by
  simp [joinings, deedsOf, State.deed?, hst]

theorem joinings_other (hc : c.isOf t = false) : joinings t (s.deed? c).toList = [] := by
  cases c with
  | run t' sleeper =>
    have hne : t' ≠ t := Choice.isOf_run.1 hc
    cases hst : stackAt s.stacks t' <;> simp [joinings, deedsOf, State.deed?, hst, hne]
  | _ => rfl

theorem Instr.ahead_eq_nil {i : Instr ι} (h : i.isParting = false) : i.ahead u t = [] := by
  cases i <;> simp_all [isParting, ahead]

theorem ahead_eq_nil {st : List (Instr ι)} (h : ∀ i ∈ st, i.isParting = false) :
    st.flatMap (Instr.ahead u t) = [] := by
  rw [List.flatMap_eq_nil_iff]
  exact fun i hi => Instr.ahead_eq_nil (h i hi)

/-- What is performed and what is ahead after it is what was ahead, unless an open queue is disposed. -/
theorem ahead_of_perform {sh : Shared ι} {ended : ThreadId → Bool} {held : Reply ι} {i : Instr ι} {e : Effect ι}
    (hsound : i.isSound = true) (he : perform u sh ended t held i = some e)
    (hstays : e.shared.buffer.value.disposed = sh.buffer.value.disposed)
    (hhandles : i = .takeHandles → sh.handles = List.range u.workers) :
    [i].filter Instr.isJoining ++ e.push.flatMap (Instr.ahead u t) = i.ahead u t := by
  by_cases hjoin : i.isJoining = true
  · cases i with
    | takeHandles =>
      cases he
      have hahead : ∀ ws : List ThreadId, (ws.map Instr.join).flatMap (Instr.ahead u t) = ws.map .join := fun ws => by
        induction ws with
        | nil => rfl
        | cons w ws ih => rw [List.map_cons, List.flatMap_cons, ih]; rfl
      have hreply : (Instr.reply .unit : Instr ι).ahead u t = [] := rfl
      rw [List.flatMap_append, hahead, hhandles rfl, List.flatMap_singleton, hreply, List.append_nil]
      rfl
    | join w =>
      simp only [perform] at he
      split at he
      · cases he; rfl
      · cases he
    | _ => cases hjoin
  · have hi : i.ahead u t = [] := by
      cases i with
      | takeHandles => exact absurd rfl hjoin
      | join w => exact absurd rfl hjoin
      | _ => rfl
    rw [hi, List.filter_singleton, Bool.eq_false_iff.2 hjoin]
    rcases parting_of_perform hsound he with hpush | rfl | ⟨rfl, hopen⟩
    · exact ahead_eq_nil hpush
    · exact absurd rfl hjoin
    · rw [disposed_of_dispose he, hopen] at hstays
      cases hstays

/-- The same of a step, and any thread. -/
theorem Reachable.ahead_of_step (h : Reachable u s) (hs : Queue.step u s c = some s')
    (hstays : s'.shared.buffer.value.disposed = s.shared.buffer.value.disposed)
    (hhandles : .takeHandles ∈ stackAt s.stacks t → s.shared.handles = List.range u.workers) :
    joinings t (s.deed? c).toList ++ (stackAt s'.stacks t).flatMap (Instr.ahead u t) =
      (stackAt s.stacks t).flatMap (Instr.ahead u t) := by
  rcases stackAt_of_step hs t with ⟨th, i, rest, e, sleeper, ths, rfl, ht, -, hst, he, -, rfl, hst'⟩ |
    ⟨hc, ⟨role, label, rest, script, hst, hst'⟩ | ⟨script, -, hst, hst'⟩ | hst'⟩
  · have hstack : stackAt s.stacks t = i :: rest := by rw [stackAt_of_getElem? (getElem?_stacks ht), hst]
    have hsound : i.isSound = true := h.sound.head (hst ▸ getElem?_stacks ht)
    have hstep := ahead_of_perform hsound he hstays fun heq => hhandles (by rw [hstack, heq]; exact List.mem_cons_self)
    rw [joinings_run hstack, hst', hstack, List.flatMap_append, List.flatMap_cons, ← List.append_assoc, hstep]
  · rw [joinings_other hc, hst, hst']
    rfl
  · rw [joinings_other hc, hst, hst']
    rfl
  · rw [joinings_other hc, hst']
    rfl

/-- A queue is disposed by one thread only. -/
theorem Closing.unique {d d' : ThreadId} {rest rest' : List (Instr ι)} (h : Closing u d rest s)
    (h' : Closing u d' rest' s) : d = d' := by
  obtain ⟨xs, drained, heq⟩ := h.disposer
  obtain ⟨xs', drained', heq'⟩ := h'.disposer
  rw [heq] at heq'
  cases heq'
  rfl

/-- Before the disposal nobody has waited for a worker. From then on only the thread that disposed the queue has, and
what it has done of that and what it has still to do is to wait once for each worker but itself. -/
theorem joinings_of_execute {cs : List (Choice ι)} (he : execute u u.start cs = some s) :
    (s.shared.buffer.value.disposed = false → ∀ t, joinings t (deeds u u.start cs) = []) ∧
      ∀ d rest, Closing u d rest s → (∀ t ≠ d, joinings t (deeds u u.start cs) = []) ∧
        joinings d (deeds u u.start cs) ++ (stackAt s.stacks d).flatMap (Instr.ahead u d) = ordeal u d := by
  induction cs using List.reverseRecOn generalizing s with
  | nil =>
    cases he
    exact ⟨fun _ _ => rfl, fun d rest hc => by cases hc.disposed⟩
  | append_singleton cs c ih =>
    obtain ⟨s₁, he₁, hs⟩ := execute_concat.1 he
    have hr := Reachable.start.execute he₁
    obtain ⟨hbefore, hsince⟩ := ih he₁
    simp only [deeds_concat he₁ hs, joinings_append]
    by_cases hd₁ : s₁.shared.buffer.value.disposed = true
    · obtain ⟨d₁, rest₁, hc₁⟩ := hr.closing hd₁
      obtain ⟨hothers, hown⟩ := hsince d₁ rest₁ hc₁
      have hd : s.shared.buffer.value.disposed = true := (hc₁.step hr hs).disposed
      have hstep := fun t => hr.ahead_of_step (t := t) hs (hd.trans hd₁.symm) fun hi => (hc₁.joiner hi rfl).2.1 rfl
      refine ⟨fun hopen => absurd (hopen.symm.trans hd) (by decide), fun d rest hc => ?_⟩
      obtain rfl := hc.unique (hc₁.step hr hs)
      refine ⟨fun t htd => ?_, by rw [List.append_assoc, hstep d, hown]⟩
      have hnone := hstep t
      rw [ahead_eq_nil (hc₁.others t htd)] at hnone
      rw [hothers t htd, (List.append_eq_nil_iff.1 hnone).1, List.append_nil]
    · have hopen₁ := Bool.eq_false_iff.2 hd₁
      refine ⟨fun hopen t => ?_, fun d rest hc => ?_⟩
      · have hnone := hr.ahead_of_step hs (t := t) (hopen.trans hopen₁.symm) fun _ => (hr.unparted hopen₁).1
        rw [ahead_eq_nil ((hr.unparted hopen₁).2 t)] at hnone
        rw [hbefore hopen₁, (List.append_eq_nil_iff.1 hnone).1, List.append_nil]
      · obtain ⟨t, sleeper, rest₁, rfl, hst⟩ := hr.dispose_of_disposed hs hopen₁ hc.disposed
        have hc' := hr.closing_of_dispose hs hst hopen₁
        obtain rfl := hc.unique hc'
        refine ⟨fun t htd => ?_, ?_⟩
        · rw [hbefore hopen₁, joinings_other (Choice.isOf_run.2 htd.symm), List.append_nil]
        · rw [hbefore hopen₁, joinings_run hst, (disposal_of_step hs hst hopen₁).2 d, if_pos rfl, List.flatMap_append,
            List.flatMap_cons, ahead_eq_nil hc'.below, List.append_nil]
          rfl

end Joinings

/-- In whatever way a queue has come to be disposed, no matter which threads have called for it and from where: one
thread only ever waits for workers, in one call, once for each worker but itself; when it comes to wait for one, the
result is set, nobody sleeps for room or for an item any more, and once it has let go of the handles nobody waits for
it; whoever is under a lock is under no other, and goes on; no thread waits for itself through others; and whoever has
not ended goes on, or waits, directly or through others, for somebody who does. -/
theorem disposal_deadlock_free {u : Setup ι} {s : Locked ι} {ms : List (Move ι)}
    (he : (Locked.start u).execute u ms = some s) (hd : s.queue.shared.buffer.value.disposed = true) :
    (∃ d, (∀ t ≠ d, joinings t (deeds u u.start (choices ms)) = []) ∧
      joinings d (deeds u u.start (choices ms)) <+: ordeal u d) ∧
    (∀ t w rest, stackAt s.queue.stacks t = .join w :: rest →
      w ≠ t ∧ s.queue.shared.result.isSome = true ∧
      (∀ th ∈ s.queue.threads, th.asleep ≠ some .notFull ∧ th.asleep ≠ some .notEmpty) ∧
      (s.isFree t = true → ∀ t', ¬ WaitsFor s t' t)) ∧
    (∀ l k, s.held l = some k →
      (∀ l' k', s.held l' = some k' → k'.thread = k.thread → l' = l) ∧ s.goesOn u k.thread) ∧
    (∀ t, ¬ Relation.TransGen (WaitsFor s) t t) ∧
    ∀ t, s.queue.hasEnded t = false → ∃ t', Relation.ReflTransGen (WaitsFor s) t t' ∧ s.goesOn u t' := by
  have hrun : execute u u.start (choices ms) = some s.queue := Locked.execute_choices he
  have hr := Reachable.start.execute hrun
  have ho := (Locked.orderly_start u).execute he
  obtain ⟨d, rest, hc⟩ := hr.closing hd
  obtain ⟨hothers, hown⟩ := (joinings_of_execute hrun).2 d rest hc
  refine ⟨⟨d, hothers, hown ▸ List.prefix_append _ _⟩, ?_, ?_, Locked.waitsFor_acyclic hr ho, ?_⟩
  · intro t w below hst
    obtain ⟨hresult, hawake⟩ := hr.settled_of_join hst
    refine ⟨?_, hresult, hawake, fun hfree t' => Locked.not_waitsFor hr hst hfree⟩
    rintro rfl
    exact (hc.joiner (hst ▸ List.mem_cons_self) rfl).2.2 rfl
  · intro l k hk
    constructor
    · intro l' k' hk' heq
      exact ho.single _ _ _ _ hk' hk heq
    · exact .inl (ho.holder_moves hk)
  · intro t ht
    exact Locked.leads_on hr ho hd (.inl ht)

/-- Thread `t` performs `n` instructions that want no lock. -/
def freely (t : ThreadId) (n : Nat) : List (Move Nat) := List.replicate n (.choose (.run t none))

/-- Thread `t` performs an instruction under a lock. -/
def under (t : ThreadId) (l : Lock) : List (Move Nat) := [.lock t, .choose (.run t none), .unlock t l]

/-- A client disposes a queue and comes to wait for the worker; the handler, at an item there, is about to dispose it
once more when another client, to look at the statistics, has taken the lock on the state. -/
def sampleWaiting : List (Move Nat) :=
  .choose (.spawn (.call (.add .owner 7 none) fun _ => .just (.add .owner 8 none))) ::
    freely 1 1 ++ under 1 .state ++ freely 1 5 ++ under 1 .state ++ freely 1 5 ++
    freely 0 1 ++ under 0 .state ++ freely 0 2 ++
    .choose (.spawn (.just .dispose)) :: freely 2 1 ++ under 2 .state ++ freely 2 3 ++ under 2 .completion ++
    freely 2 3 ++ under 2 .notifications ++ under 2 .handles ++
    .choose (.answer 0 (.call .dispose fun _ => .pause "again")) :: freely 0 1 ++
    .choose (.spawn (.just .stats)) :: freely 3 1 ++ [.lock 3]

/-- The state that this comes to. -/
def sampleWaited : Locked Nat := ((Locked.start sample).execute sample sampleWaiting).getD (.start sample)

theorem sample_disposal_deadlock_free :
    (Locked.start sample).execute sample sampleWaiting = some sampleWaited ∧
      sampleWaited.queue.shared.buffer.value.disposed = true ∧
      stackAt sampleWaited.queue.stacks 2 = [.join 0, .reply .unit, .resume .client fun r => .ret (.returned r)] ∧
      sampleWaited.next? 0 = some .dispose ∧ sampleWaited.held .state = some ⟨3, false⟩ ∧
      joinings 2 (deeds sample sample.start (choices sampleWaiting)) = [.takeHandles] ∧
      sampleWaited.queue.shared.result = some false ∧
      WaitsFor sampleWaited 2 0 ∧ WaitsFor sampleWaited 0 3 ∧ ¬ WaitsFor sampleWaited 0 2 ∧
      ¬ Relation.TransGen (WaitsFor sampleWaited) 2 2 ∧ sampleWaited.goesOn sample 3 := by
  have he : (Locked.start sample).execute sample sampleWaiting = some sampleWaited := rfl
  obtain ⟨-, hjoin, hheld, hacyclic, -⟩ := disposal_deadlock_free he rfl
  obtain ⟨-, -, -, hno⟩ := hjoin 2 0 [.reply .unit, .resume .client fun r => .ret (.returned r)] rfl
  exact ⟨he, rfl, rfl, rfl, rfl, rfl, rfl, .worker rfl rfl rfl, .lock rfl rfl rfl rfl rfl, hno rfl 0, hacyclic 2,
    (hheld .state ⟨3, false⟩ rfl).2⟩

end Conveyor.Queue
