import Conveyor.Proofs.Cli.Plot

/-!
# From phase to phase

The main task goes through its phases in one order as long as no signal arrives. Each phase leaves the queue as the next
one needs it: the producers have ended before adding is completed, adding has been completed before the main task waits
for the queue to drain, and it has drained before the statistics are read.

* `Undisturbed`: the states that a job can come to without a signal.
* `Undisturbed.plot`: the plot holds in all of them.
-/

namespace Conveyor.Cli.Job

open Queue

variable {j : Job} {s s' : State}

/-! ## The main task -/

section Scripts

variable {n : Nat}

theorem tame_say (m : Log.Notice) : Tame n .talk false (thenRest (.say m)) :=
  .call (by simp [Call.instrs, Chore.allows]) (fun _ => .pause _) fun _ _ _ => rfl

theorem tame_subscribe (id : String) (filter : EventFilter) : Tame n .talk false (thenRest (.subscribe id filter)) :=
  .call (by simp [Call.instrs, Chore.allows]) (fun _ => .pause _) fun _ _ _ => rfl

theorem tame_unsubscribe (id : String) : Tame n .talk false (thenRest (.unsubscribe id)) :=
  .call (by simp [Call.instrs, Chore.allows]) (fun _ => .pause _) fun _ _ _ => rfl

theorem tame_opening : Tame n .talk false j.opening :=
  .call (by simp [Call.instrs, Chore.allows]) (fun _ => tame_subscribe _ _) fun _ _ _ => rfl

theorem tame_sayAll (ns : List Log.Notice) : Tame n .talk true (sayAll ns) := by
  induction ns with
  | nil => exact .ret _
  | cons m ns ih => exact .call (by simp [Call.instrs, Chore.allows]) (fun _ => ih) fun _ _ _ => rfl

theorem tame_leave (ns : List Log.Notice) : Tame n .parting true (leave ns) := by
  induction ns with
  | nil => exact .call (by simp [Call.instrs, Chore.allows]) (fun _ => .ret _) fun _ _ _ => rfl
  | cons m ns ih => exact .call (by simp [Call.instrs, Chore.allows]) (fun _ => ih) fun _ _ _ => rfl

end Scripts

section Turns

variable {q : Queue.State Nat} {sh : Shared Nat} {n : Nat} {c : Chore} {ends : Bool} {role : Queue.Role Nat} {label : String}
  {rest : List (Instr Nat)} {r : Reply Nat} {b : Stats} {ph ph' : Phase} {t : ThreadId} {st : List (Instr Nat)}
  {o : Option (Ending Nat)} {stage stage' : Nat} {script : Script Nat}

theorem plays_paused (h : Plays n c ends (.run role (.pause label) :: rest)) :
    role = .client ∧ rest = [] ∧ ends = false := by
  generalize hst : Instr.run role (.pause label) :: rest = st at h
  cases h with
  | run hscript =>
    cases hst
    cases hscript
    exact ⟨rfl, rfl, rfl⟩
  | @call p next hp =>
    cases p with
    | nil => cases hst
    | cons i p =>
      cases hst
      have := hp _ List.mem_cons_self
      cases c <;> cases this
  | ended => cases hst

theorem completing_paused (h : Completing n sh (.run role (.pause label) :: rest) r) :
    Instr.run role (.pause label) :: rest = [.run .client atRest] ∧ sh.buffer.value.addingCompleted = true ∧
      ∀ x, r ≠ .error x := by
  generalize hst : Instr.run role (.pause label) :: rest = st at h
  cases h with
  | asking => cases hst
  | asked => cases hst
  | @heard p _ _ hp =>
    cases p with
    | nil => cases hst
    | cons i p =>
      cases hst
      cases hp _ List.mem_cons_self
  | done hdone hr => exact ⟨rfl, hdone, hr⟩

theorem tallying_paused (h : Tallying b (.run role (.pause label) :: rest) r) :
    role = .client ∧ rest = [] ∧ r = .stats b := by
  generalize hst : Instr.run role (.pause label) :: rest = st at h
  cases h with
  | asking => cases hst
  | asked => cases hst
  | @reading p _ hp =>
    cases p with
    | nil => cases hst
    | cons i p =>
      cases hst
      obtain ⟨c, hc⟩ := hp _ List.mem_cons_self
      cases hc
  | read =>
    cases hst
    exact ⟨rfl, rfl, rfl⟩

/-- A main task that rests has nothing else to do. -/
theorem Leads.paused (h : Leads j sh (.run role (.pause label) :: rest) r ph) : role = .client ∧ rest = [] := by
  cases ph with
  | completing => cases (completing_paused h).1; exact ⟨rfl, rfl⟩
  | counting => exact ⟨(tallying_paused h).1, (tallying_paused h).2.1⟩
  | draining => cases h; exact ⟨rfl, rfl⟩
  | decided => cases h; exact ⟨rfl, rfl⟩
  | closing => cases h; exact ⟨rfl, rfl⟩
  | disposing => cases h
  | failed => cases h
  | killed => cases h
  | _ => exact ⟨(plays_paused h).1, (plays_paused h).2.1⟩

/-- Who rests. -/
theorem stack_of_pause? (h : q.pause? t = some label) :
    ∃ th role rest, q.threads[t]? = some th ∧ th.stack = .run role (.pause label) :: rest := by
  unfold Queue.State.pause? at h
  obtain ⟨th, ht, hlabel⟩ := Option.bind_eq_some_iff.1 h
  split at hlabel
  · rename_i hst
    cases hlabel
    exact ⟨th, _, _, ht, hst⟩
  · cases hlabel

/-- Who has ended has nothing left to do. -/
theorem stack_of_ending? {th : Thread Nat} {e : Ending Nat} (h : q.ending? t = some e)
    (ht : q.threads[t]? = some th) : th.stack = [] := by
  simp only [Queue.State.ending?, ht, Option.bind_some] at h
  split at h
  · rename_i hended
    exact List.isEmpty_iff.1 hended
  · cases h

/-- A part of the main task is one of no other thread. -/
theorem part_main (h : Leads j sh st r ph) : Part j ph sh j.mainThread st r o where
  worker hlt := absurd hlt (Nat.lt_irrefl _)
  main _ := h
  producer index _ heq := absurd heq.symm (producer_ne_main index)
  observer heq := absurd heq (main_ne_observer)

/-- A later stage brings nothing new for the other threads, but for what has come about. -/
theorem Scene.turn (h : Scene j stage sh) (hle : stage ≤ stage')
    (hadded : 3 ≤ stage' → sh.buffer.value.addingCompleted = true) (hdrained : 4 ≤ stage' → sh.result = some true) :
    Scene j stage' sh :=
  ⟨h.poisoned, h.callbacks, h.cancelled, h.workers, h.handles, h.rejected, h.endings, h.producers,
    fun hs => h.adding (Nat.lt_of_le_of_lt hle hs), hadded, fun hs => h.disposed (Nat.lt_of_le_of_lt hle hs),
    fun hs => h.owned (Nat.lt_of_le_of_lt hle hs), hdrained⟩

/-- Once the queue has drained, a later stage brings nothing new at all. -/
theorem Scene.later (h : Scene j stage sh) (hs : 4 ≤ stage) (hle : stage ≤ stage') : Scene j stage' sh :=
  h.turn hle (fun _ => h.added (Nat.le_of_succ_le hs)) fun _ => h.drained hs

/-- A producer of which it is known that it has ended, or not. -/
theorem Produces.gather {index gathered gathered' : Nat} (h : Produces j sh index st r o (some gathered))
    (hended : index < gathered' → index < gathered ∨ st = []) : Produces j sh index st r o (some gathered') := by
  obtain ⟨ids, hfeeding, hstripe, hnil⟩ := h
  exact ⟨ids, hfeeding, hstripe, fun hlt => (hended hlt).elim hnil id⟩

/-- The main task goes on to another phase, and the other threads to their parts in it. -/
theorem Part.turn (h : Part j ph sh t st r o) (ht : t ≠ j.mainThread) (hwatch : ph.stage < 7 ↔ ph'.stage < 7)
    (hgathered : ∀ index < j.workload.producers, t = j.producer index →
      Produces j sh index st r o (ph.gathered j.workload.producers) →
        Produces j sh index st r o (ph'.gathered j.workload.producers)) : Part j ph' sh t st r o := by
  refine ⟨h.worker, fun heq => absurd heq ht, fun index hindex heq => ?_, fun heq => ?_⟩
  · exact hgathered index hindex heq (h.producer index hindex heq)
  · have hwatches := h.observer heq
    unfold Watches at hwatches ⊢
    simp only [hwatch] at hwatches
    exact hwatches

namespace Plot

/-- The main task goes on to another phase with something to do. -/
theorem tellMain {summary : Option (Outcome × Stats)} (h : Plot j s)
    (hs : j.tell s.queue j.mainThread script = some q) (hdue : ph.isDue = true)
    (hscene : Scene j ph.stage s.queue.shared) (hmain : ∀ r, Leads j s.queue.shared [.run .client script] r ph)
    (hpart : ∀ {t th}, t ≠ j.mainThread → s.queue.threads[t]? = some th →
      Part j ph s.queue.shared t th.stack th.reply th.ending)
    (hsummary : summary = if ph.stage < 9 then none else some (.drained, j.balance)) :
    Plot j { s with queue := q, phase := ph, summary := summary } := by
  obtain ⟨th, role, label, rest, ht, hst, rfl⟩ := answer_of_step hs
  have hleads := (h.part ht).main rfl
  rw [hst] at hleads
  obtain ⟨rfl, rfl⟩ := hleads.paused
  refine ⟨h.unannounced, h.unsignalled, (List.length_set ..).trans h.length, hdue, hscene, ?_, hsummary⟩
  intro t' th' ht'
  by_cases htt : t' = j.mainThread
  · subst htt
    rw [List.getElem?_set_self (List.getElem?_eq_some_iff.1 ht).1] at ht'
    cases ht'
    exact part_main (hmain _)
  · rw [List.getElem?_set_ne (Ne.symm htt)] at ht'
    exact hpart htt ht'

/-- The main task goes on to another phase and rests. -/
theorem turnMain (h : Plot j s) (hdue : ph.isDue = true) (hscene : Scene j ph.stage s.queue.shared)
    (hmain : ∀ th, s.queue.threads[j.mainThread]? = some th → Leads j s.queue.shared th.stack th.reply ph)
    (hpart : ∀ {t th}, t ≠ j.mainThread → s.queue.threads[t]? = some th →
      Part j ph s.queue.shared t th.stack th.reply th.ending)
    (hsummary : s.summary = if ph.stage < 9 then none else some (.drained, j.balance)) :
    Plot j { s with phase := ph } := by
  refine ⟨h.unannounced, h.unsignalled, h.length, hdue, hscene, ?_, hsummary⟩
  intro t th ht
  by_cases htt : t = j.mainThread
  · subst htt
    exact part_main (hmain th ht)
  · exact hpart htt ht

end Plot

end Turns

/-! ## Phase by phase -/

section Phases

variable {q : Queue.State Nat} {script : Script Nat}

/-- A producer that rests has not begun. -/
def Waits (j : Job) (q : Queue.State Nat) (index : Nat) : Prop :=
  ∃ th, q.threads[j.producer index]? = some th ∧ th.stack = [.run .client atRest]

/-- Producers that wait can all be told what to produce. -/
theorem tellAll (n : Nat) (hwait : ∀ index < n, Waits j q index) :
    ∃ q', (List.range n).foldlM (fun q i => j.tell q (j.producer i) (j.production i)) q = some q' ∧
      q'.shared = q.shared ∧ q'.threads.length = q.threads.length ∧
      (∀ t, (∀ index < n, t ≠ j.producer index) → q'.threads[t]? = q.threads[t]?) ∧
      ∀ index < n, ∃ th, q'.threads[j.producer index]? = some th ∧ th.stack = [.run .client (j.production index)] := by
  induction n with
  | zero => exact ⟨q, rfl, rfl, rfl, fun _ _ => rfl, fun _ hlt => absurd hlt (Nat.not_lt_zero _)⟩
  | succ n ih =>
    obtain ⟨q₁, hfold, hshared, hlength, hothers, htold⟩ := ih fun index hlt => hwait index (Nat.lt_succ_of_lt hlt)
    obtain ⟨th, ht, hst⟩ := hwait n (Nat.lt_succ_self n)
    have hne : ∀ index < n, j.producer n ≠ j.producer index := fun index hlt heq =>
      absurd (producer_inj heq) (Nat.ne_of_gt hlt)
    have ht₁ : q₁.threads[j.producer n]? = some th := (hothers _ hne).trans ht
    let th' : Thread Nat := { th with stack := [.run .client (j.production n)] }
    have htell : j.tell q₁ (j.producer n) (j.production n) =
        some { q₁ with threads := q₁.threads.set (j.producer n) th' } := by
      simp only [tell, Queue.step, ht₁, hst, atRest, th']
    refine ⟨{ q₁ with threads := q₁.threads.set (j.producer n) th' }, ?_, hshared, ?_, ?_, ?_⟩
    · rw [List.range_succ, List.foldlM_append, hfold]
      simpa using htell
    · simpa using hlength
    · intro t hnot
      rw [List.getElem?_set_ne (Ne.symm (hnot n (Nat.lt_succ_self n)))]
      exact hothers t fun index hlt => hnot index (Nat.lt_succ_of_lt hlt)
    · intro index hlt
      by_cases heq : index = n
      · subst heq
        exact ⟨th', List.getElem?_set_self (List.getElem?_eq_some_iff.1 ht₁).1, rfl⟩
      · obtain ⟨th₂, ht₂, hst₂⟩ := htold index (by omega)
        refine ⟨th₂, ?_, hst₂⟩
        rw [List.getElem?_set_ne fun h => heq (producer_inj h).symm]
        exact ht₂

namespace Plot

/-- In the opening, the producers wait. -/
theorem waits (h : Plot j s) (hph : s.phase = .opening) {index : Nat} (hindex : index < j.workload.producers) :
    Waits j s.queue index := by
  obtain ⟨th, ht⟩ := h.exists_thread (producer_lt hindex)
  have hproduces := (h.part ht).producer index hindex rfl
  rw [hph] at hproduces
  exact ⟨th, ht, hproduces.1⟩

/-- The opening ends: the producers are told what to produce. -/
theorem opened (h : Plot j s) (hph : s.phase = .opening)
    (hq : (List.range j.workload.producers).foldlM (fun q i => j.tell q (j.producer i) (j.production i)) s.queue =
      some q) : Plot j { s with queue := q, phase := .gathering 0 } := by
  obtain ⟨q', hfold, hshared, hlength, hothers, htold⟩ := tellAll j.workload.producers fun index hlt => h.waits hph hlt
  obtain rfl : q' = q := Option.some.inj (hfold.symm.trans hq)
  refine ⟨h.unannounced, h.unsignalled, hlength.trans h.length, rfl, ?_, ?_, ?_⟩
  · show Scene j 1 q'.shared
    have hscene : Scene j 0 s.queue.shared := by simpa [hph] using h.scene
    rw [hshared]
    exact hscene.turn (by decide) (by simp) (by simp)
  · intro t th ht
    show Part j (.gathering 0) q'.shared t th.stack th.reply th.ending
    rw [hshared]
    by_cases hproducer : ∃ index < j.workload.producers, t = j.producer index
    · obtain ⟨index, hindex, rfl⟩ := hproducer
      obtain ⟨th₁, ht₁, hst⟩ := htold index hindex
      obtain rfl : th₁ = th := Option.some.inj (ht₁.symm.trans ht)
      refine ⟨fun hlt => absurd hlt (not_producer_lt index), fun heq => absurd heq (producer_ne_main index), ?_,
        fun heq => absurd heq (producer_ne_observer hindex)⟩
      intro index' hindex' heq
      obtain rfl := producer_inj heq
      obtain ⟨th₀, ht₀, hst₀⟩ := h.waits hph hindex
      have hproduces := (h.part ht₀).producer index hindex rfl
      rw [hph] at hproduces
      refine ⟨j.workload.stripe index, ?_, ?_, fun hlt => absurd hlt (Nat.not_lt_zero _)⟩
      · rw [hst]
        exact .run (feeds_produce _)
      · rw [hproduces.2, List.nil_append]
    · rw [hothers t fun index hlt heq => hproducer ⟨index, hlt, heq⟩] at ht
      have hpart := h.part ht
      rw [hph] at hpart
      refine ⟨hpart.worker, hpart.main, ?_, ?_⟩
      · exact fun index hlt heq => absurd ⟨index, hlt, heq⟩ hproducer
      · exact hpart.observer
  · have := h.summary
    rw [hph] at this
    exact this

/-- What was received is handed to the observer. -/
theorem collected {outcome : Outcome} {observed : Nat} {hub : Hub} {ns : List Log.Notice} (h : Plot j s)
    (hph : s.phase = .collecting outcome)
    (hq : j.tell { s.queue with shared := { s.queue.shared with hub := hub } } j.observer (sayAll ns) = some q) :
    Plot j { s with queue := q, phase := .observing outcome observed } := by
  obtain ⟨th, role, label, rest, ht, hst, rfl⟩ := answer_of_step hq
  obtain ⟨q₀, ph, signals, disposer, announced, summary⟩ := s
  obtain rfl : ph = .collecting outcome := hph
  have hobserver : th.stack = [.run .client atRest] := (h.part ht).observer rfl
  rw [hst] at hobserver
  cases hobserver
  have hs : Scene j 7 q₀.shared := h.scene.later (by simp) (by simp)
  refine ⟨h.unannounced, h.unsignalled, (List.length_set ..).trans h.length, h.due, ?_, ?_, h.summary⟩
  · exact ⟨hs.poisoned, hs.callbacks, hs.cancelled, hs.workers, hs.handles, hs.rejected, hs.endings, hs.producers,
      hs.adding, hs.added, hs.disposed, hs.owned, hs.drained⟩
  · intro t' th' ht'
    by_cases htt : t' = j.observer
    · subst htt
      rw [List.getElem?_set_self (List.getElem?_eq_some_iff.1 ht).1] at ht'
      cases ht'
      have hpart := h.part ht
      refine ⟨fun hlt => absurd hlt not_observer_lt, fun heq => absurd heq.symm main_ne_observer, ?_, fun _ => ?_⟩
      · exact fun index hindex heq => absurd heq.symm (producer_ne_observer hindex)
      · exact .run (tame_sayAll _)
    · rw [List.getElem?_set_ne (Ne.symm htt)] at ht'
      have hpart := h.part ht'
      exact ⟨hpart.worker, hpart.main, hpart.producer, fun heq => absurd heq htt⟩

/-- When the main task rests after it has completed adding, adding is completed, and it was not told of an error. -/
theorem added {label : String} (h : Plot j s) (hph : s.phase = .completing)
    (hp : s.queue.pause? j.mainThread = some label) :
    ∃ th, s.queue.threads[j.mainThread]? = some th ∧ th.stack = [.run .client atRest] ∧
      s.queue.reply? j.mainThread = some th.reply ∧ s.queue.shared.buffer.value.addingCompleted = true ∧
        ∀ x, th.reply ≠ .error x := by
  obtain ⟨th, role, rest, ht, hst⟩ := stack_of_pause? hp
  have hmain := (h.part ht).main rfl
  rw [hst, hph] at hmain
  obtain ⟨hrest, hdone, hreply⟩ := completing_paused hmain
  have hr? : s.queue.reply? j.mainThread = some th.reply := by rw [Queue.State.reply?, ht, Option.map_some]
  exact ⟨th, ht, hst.trans hrest, hr?, hdone, hreply⟩

/-- The result that the main task waits for is that the queue has drained: nobody disposes of it before. -/
theorem shown {drained : Bool} (hr : Queue.Reachable j.setup s.queue) (h : Plot j s) (hph : s.phase = .draining)
    (hw : s.queue.shared.watch = some drained) : drained = true ∧ s.queue.shared.result = some drained := by
  have hresult := hr.watched.shown hw
  have hverdict := hr.decided.result hresult
  have hopen : s.phase.stage < 9 := by simp [hph]
  rw [Shared.verdict_of_nil (hr.fifo.undisposed (h.scene.disposed hopen))] at hverdict
  split at hverdict <;> cases hverdict
  exact ⟨rfl, hresult⟩

/-- The statistics that the main task is given are those planned. -/
theorem counted {outcome : Outcome} {observed : Nat} (h : Plot j s) (hph : s.phase = .counting outcome observed)
    (hq : j.tell s.queue j.mainThread script = some q) : s.queue.reply? j.mainThread = some (.stats j.balance) := by
  obtain ⟨th, role, label, rest, ht, hst, -⟩ := answer_of_step hq
  have hmain := (h.part ht).main rfl
  rw [hst, hph] at hmain
  rw [Queue.State.reply?, ht, Option.map_some, (tallying_paused hmain).2.2]

/-- The plot goes on when the main task does. -/
theorem advance (hr : Queue.Reachable j.setup s.queue) (h : Plot j s) (hs : j.advance s = some s') : Plot j s' := by
  obtain ⟨q, ph, signals, disposer, announced, summary⟩ := s
  cases ph with
  | opening =>
    simp only [Job.advance] at hs
    split at hs
    · obtain ⟨q', hq, rfl⟩ := Option.map_eq_some_iff.1 hs
      exact h.opened rfl hq
    · cases hs
  | gathering next =>
    simp only [Job.advance] at hs
    split at hs
    · split at hs
      · rename_i e he
        obtain ⟨q', hq, rfl⟩ := Option.map_eq_some_iff.1 hs
        refine h.tellMain hq rfl h.scene (fun _ => .run (tame_say _)) (fun ht hth => ?_) h.summary
        refine (h.part hth).turn ht .rfl fun index hindex heq hproduces => hproduces.gather fun hlt => ?_
        rcases Nat.lt_succ_iff_lt_or_eq.1 hlt with hlt | rfl
        · exact .inl hlt
        · exact .inr (stack_of_ending? he (heq ▸ hth))
      · cases hs
    · rename_i hnext
      obtain ⟨q', hq, rfl⟩ := Option.map_eq_some_iff.1 hs
      refine h.tellMain hq rfl (h.scene.turn (by simp) (by simp) (by simp))
        (fun _ => .asking) (fun ht hth => ?_) h.summary
      exact (h.part hth).turn ht (by simp) fun index hindex _ hproduces =>
        hproduces.gather fun _ => .inl (by omega)
  | completing =>
    simp only [Job.advance] at hs
    cases hp : q.pause? j.mainThread with
    | none => simp [hp] at hs
    | some label =>
      obtain ⟨th, ht, hst, hreply, hdone, hne⟩ := h.added rfl hp
      obtain rfl : s' = ⟨q, .draining, signals, disposer, announced, summary⟩ := by
        simp only [hp, hreply] at hs
        split at hs
        · rename_i heq
          exact absurd (Option.some.inj heq) (hne _)
        · exact (Option.some.inj hs).symm
        · contradiction
      refine h.turnMain rfl (h.scene.turn (by simp) (fun _ => hdone) (by simp)) ?_ ?_ h.summary
      · intro th' ht'
        obtain rfl : th = th' := Option.some.inj (ht.symm.trans ht')
        exact hst
      · exact fun ht hth => (h.part hth).turn ht (by simp) fun _ _ _ => id
  | draining =>
    simp only [Job.advance] at hs
    obtain ⟨drained, hw, rfl⟩ := Option.map_eq_some_iff.1 hs
    obtain ⟨rfl, hresult⟩ := h.shown hr rfl hw
    refine h.turnMain rfl (h.scene.turn (by simp) (fun _ => h.scene.added (by simp))
      fun _ => hresult) (fun th ht => (h.part ht).main rfl) (fun ht hth => ?_) h.summary
    exact (h.part hth).turn ht (by simp) fun _ _ _ => id
  | decided outcome =>
    obtain rfl : outcome = .drained := by simpa [Phase.isDue] using h.due
    have hcancelled : q.shared.cancelled = [] := h.scene.cancelled
    obtain rfl : s' = ⟨q, .closing .drained, signals, disposer, announced, summary⟩ := by
      simp only [Job.advance, hcancelled, List.not_mem_nil, or_false, reduceCtorEq, if_false] at hs
      exact (Option.some.inj hs).symm
    refine h.turnMain rfl (h.scene.later (by simp) (by simp)) (fun th ht => (h.part ht).main rfl) (fun ht hth => ?_) h.summary
    exact (h.part hth).turn ht (by simp) fun _ _ _ => id
  | closing outcome =>
    simp only [Job.advance] at hs
    obtain ⟨q', hq, rfl⟩ := Option.map_eq_some_iff.1 hs
    refine h.tellMain hq h.due (h.scene.later (by simp) (by simp)) (fun _ => .run (tame_unsubscribe _)) (fun ht hth => ?_) h.summary
    exact (h.part hth).turn ht (by simp) fun _ _ _ => id
  | collecting outcome =>
    simp only [Job.advance] at hs
    split at hs
    · obtain ⟨q', hq, rfl⟩ := Option.map_eq_some_iff.1 hs
      exact h.collected rfl hq
    · cases hs
  | observing outcome observed =>
    simp only [Job.advance] at hs
    split at hs
    · obtain ⟨q', hq, rfl⟩ := Option.map_eq_some_iff.1 hs
      refine h.tellMain hq h.due (h.scene.later (by simp) (by simp)) (fun _ => .asking) (fun ht hth => ?_) h.summary
      exact (h.part hth).turn ht (by simp) fun _ _ _ => id
    · cases hs
  | counting outcome observed =>
    simp only [Job.advance] at hs
    split at hs
    · rename_i stats hstats
      obtain ⟨q', hq, rfl⟩ := Option.map_eq_some_iff.1 hs
      obtain rfl : outcome = .drained := by simpa [Phase.isDue] using h.due
      cases hstats.symm.trans (h.counted rfl hq)
      refine h.tellMain hq rfl (h.scene.later (by simp) (by simp)) (fun _ => .run (tame_leave _)) (fun ht hth => ?_) rfl
      exact (h.part hth).turn ht (by simp) fun _ _ _ => id
    · cases hs
  | leaving outcome =>
    simp only [Job.advance] at hs
    split at hs
    · cases hs
      refine h.turnMain h.due (h.scene.later (by simp) (by simp)) (fun th ht => (h.part ht).main rfl) (fun ht hth => ?_) h.summary
      exact (h.part hth).turn ht (by simp) fun _ _ _ => id
    · cases hs
  | ended => cases hs
  | disposing => cases h.due
  | failed => cases hs
  | killed => cases hs

end Plot

end Phases

/-! ## Undisturbed runs -/

section Runs

variable {q : Queue.State Nat}

/-- The states that a job can come to without a signal. -/
inductive Undisturbed (j : Job) : State → Prop
  | start : Undisturbed j j.start
  | step {s s' : State} {m : Move} : Undisturbed j s → m ≠ .signal → j.step s m = some s' → Undisturbed j s'

theorem Undisturbed.reachable (h : Undisturbed j s) : Reachable j s := by
  induction h with
  | start => exact .start
  | step _ _ hs ih => exact ih.step hs

/-- Clients that start one after the other. -/
theorem spawnAll (scripts : List (Script Nat)) :
    (scripts.foldl Queue.State.spawn q).shared = q.shared ∧
      (scripts.foldl Queue.State.spawn q).threads =
        q.threads ++ scripts.map fun script => { stack := [.run .client script] } := by
  induction scripts generalizing q with
  | nil => exact ⟨rfl, (List.append_nil _).symm⟩
  | cons script scripts ih =>
    obtain ⟨hshared, hthreads⟩ := ih (q := q.spawn script)
    refine ⟨hshared, ?_⟩
    rw [List.foldl_cons, hthreads]
    simp [Queue.State.spawn]

/-- The threads of a job that begins. -/
theorem start_threads (j : Job) : j.start.queue.threads = j.setup.start.threads ++
    j.clients.map fun script => { stack := [.run .client script] } := (spawnAll j.clients).2

/-- All clients but the main task wait. -/
theorem client_waits {k : Nat} {script : Script Nat} (h : j.clients[k + 1]? = some script) : script = atRest := by
  have hmem : script ∈ (List.range j.workload.producers).map (fun _ => atRest) ++ [atRest] :=
    List.mem_of_getElem? (i := k) (by simpa [clients] using h)
  rcases List.mem_append.1 hmem with hmem | hmem
  · obtain ⟨index, -, rfl⟩ := List.mem_map.1 hmem
    rfl
  · exact List.mem_singleton.1 hmem

/-- The parts with which a job begins. -/
theorem part_start {t : Nat} {th : Thread Nat} (ht : j.start.queue.threads[t]? = some th) :
    Part j .opening j.setup.start.shared t th.stack th.reply th.ending := by
  have hlen : j.setup.start.threads.length = j.setup.workers := by simp [Setup.start]
  rw [start_threads, List.getElem?_append, hlen] at ht
  by_cases hw : t < j.setup.workers
  · rw [if_pos hw] at ht
    have hst : th.stack = [.say (.workerStarted j.setup.name t), .take] := by
      simp only [Setup.start, List.getElem?_map, List.getElem?_range hw, Option.map_some, Option.some.injEq] at ht
      rw [← ht]
    refine ⟨fun _ i hi => ?_, fun heq => ?_, fun index _ heq => ?_, fun heq => ?_⟩
    · rw [hst] at hi
      simp only [List.mem_cons, List.not_mem_nil, or_false] at hi
      rcases hi with rfl | rfl <;> rfl
    · exact absurd (heq ▸ hw) (Nat.lt_irrefl _)
    · exact absurd (heq ▸ hw) (not_producer_lt index)
    · exact absurd (heq ▸ hw) not_observer_lt
  · rw [if_neg hw, List.getElem?_map] at ht
    obtain ⟨script, hscript, rfl⟩ := Option.map_eq_some_iff.1 ht
    have waiting : t ≠ j.setup.workers → script = atRest := by
      intro hne
      obtain ⟨k, hk⟩ : ∃ k, t - j.setup.workers = k + 1 := ⟨t - j.setup.workers - 1, by omega⟩
      rw [hk] at hscript
      exact client_waits hscript
    refine ⟨fun hlt => absurd hlt hw, ?_, ?_, ?_⟩
    · rintro rfl
      have hfirst : j.clients[0]? = some script := by
        rw [← hscript]
        exact congrArg (fun k => j.clients[k]?) (Nat.sub_self j.setup.workers).symm
      cases hfirst
      exact .run tame_opening
    · rintro index hindex rfl
      refine ⟨?_, rfl⟩
      rw [waiting (producer_ne_main index)]
    · rintro rfl
      show [Instr.run .client script] = _
      rw [waiting (Ne.symm main_ne_observer)]

/-- The plot begins. -/
theorem Plot.start (hf : Fit j) : Plot j j.start := by
  have hshared : j.start.queue.shared = j.setup.start.shared := (spawnAll j.clients).1
  refine ⟨rfl, rfl, ?_, rfl, ?_, ?_, rfl⟩
  · rw [start_threads]
    simp only [Setup.start, clients, List.length_map, List.length_cons, List.length_append, List.length_range,
      List.length_nil]
    omega
  · show Scene j 0 j.start.queue.shared
    rw [hshared]
    refine ⟨rfl, hf.callbacks, rfl, ?_, ?_, rfl, ?_, ?_, fun _ => rfl, ?_, fun _ => rfl, fun _ => rfl, ?_⟩
    all_goals simp [Setup.start, Shared.entries, Note.handled?, Note.accepted?]
  · intro t th ht
    rw [hshared]
    exact part_start ht

/-- Whatever moves but a signal, the plot goes on. -/
theorem Plot.step {m : Move} (hf : Fit j) (hr : Queue.Reachable j.setup s.queue) (h : Plot j s) (hm : m ≠ .signal)
    (hs : j.step s m = some s') : Plot j s' := by
  unfold Job.step at hs
  split at hs
  · cases hs
  · cases m with
    | run t sleeper =>
      obtain ⟨q, hq, rfl⟩ := Option.map_eq_some_iff.1 hs
      exact h.run hf hr hq
    | rouse t =>
      obtain ⟨q, hq, rfl⟩ := Option.map_eq_some_iff.1 hs
      exact h.alike (alike_of_rouse hq)
    | main => exact h.advance hr hs
    | interrupt => simp [interrupt, h.unannounced] at hs
    | signal => exact absurd rfl hm
    | handle k => simp [handle, h.unsignalled] at hs

end Runs

end Conveyor.Cli.Job
