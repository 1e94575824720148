import Conveyor.Proofs.Queue.Execution
import Conveyor.Proofs.Queue.Round
import Conveyor.Queue.Describe

/-!
# Accounts

What the shared state counts and what the threads have still to count add up. An account (`Account`) is a quantity of
the shared state that equals, in every reachable state, the weight of what the threads have still to do
(`Reachable.account`).

* `Reachable.busy_eq`: the busy workers are those with a finish before them.
* `Reachable.recorded_eq`: a counter is behind its events by what the threads have still to add to it.
* `Reachable.accepted_eq`: every accepted item is in the buffer, with a worker, recorded or abandoned.
-/

namespace Conveyor.Queue

variable {ι : Type}

/-! ## Accounts -/

/-- What a weight says of instructions: only the work on an item and the change of a counter weigh anything, and client
code weighs the same whatever it does next. -/
structure IsWeight (w : Instr ι → Nat) : Prop where
  plain : ∀ i, i.isPlain = true → w i = 0
  seek : ∀ i, i.isSeek = true → w i = 0
  notifyOne : ∀ c, w (.notifyOne c) = 0
  notifyAll : ∀ c, w (.notifyAll c) = 0
  resolve : ∀ d, w (.resolve d) = 0
  run : ∀ role script script', w (.run role script) = w (.run role script')
  resume : ∀ role next script, w (.resume role next) = w (.run role script)

/-- `F` goes up with what an act leaves to do and down with what it does. -/
structure Account (u : Setup ι) (F : Shared ι → Int) (w : Instr ι → Nat) : Prop extends IsWeight w where
  start : F u.start.shared = 0
  same : ∀ {sh sh' : Shared ι}, sh.Same sh' → F sh' = F sh
  accept : ∀ (sh : Shared ι) t x,
    F ((sh.setBuffer (sh.buffer.value.push x)).note t (.accepted x)) = F sh + w (.bump .enqueued 1)
  take : ∀ (sh : Shared ι) t x rest, sh.buffer.value.items = x :: rest →
    F ((sh.setBuffer (sh.buffer.value.pop rest)).note t (.taken x)) = F sh + w (.start x) + w .finish
  started : ∀ (sh : Shared ι) t x script,
    F (sh.note t (.started x)) + w (.start x) = F sh + w (.run (.handler x) script)
  handled : ∀ (sh : Shared ι) t x e script,
    F (sh.noteEnding u t x e) + w (.run (.handler x) script) = F sh + load w (e.report u)
  finish : ∀ sh : Shared ι, (w .finish : Int) ≤ F sh →
    F (sh.setBuffer sh.buffer.value.free) + w .finish = F sh
  settled : ∀ (sh : Shared ι) t d, F ((sh.settled d).note t (.resolved d)) = F sh
  complete : ∀ sh : Shared ι, F (sh.setBuffer sh.buffer.value.complete) = F sh
  close : ∀ (sh : Shared ι) t d,
    F ((sh.setBuffer sh.buffer.value.close).note t (.abandoned sh.buffer.value.items d)) =
      F sh + w (.bump .abandoned sh.buffer.value.items.length)
  bump : ∀ (sh : Shared ι) c n, F (sh.count c n) + w (.bump c n) = F sh

section Account

variable {u : Setup ι} {F : Shared ι → Int} {w : Instr ι → Nat}

/-- Every act keeps an account. -/
theorem Account.act (h : Account u F w) {sh : Shared ι} {t : ThreadId} {i : Instr ι} {e : Effect ι}
    (hact : Act u sh t i e) (hle : (w i : Int) ≤ F sh) : F e.shared + w i = F sh + load w e.push := by
  have plain : ∀ {p : List (Instr ι)}, (∀ j ∈ p, j.isPlain = true) → load w p = 0 := load_plain h.plain
  have hreply : ∀ r, w (.reply r) = 0 := fun r => h.plain _ rfl
  have htake : w .take = 0 := h.seek _ rfl
  cases hact with
  | @accept i bid r hi =>
    have := h.accept sh t bid.item
    simp only [load_cons, load_nil, h.plain _ (Instr.isPlain_of_bid hi), h.notifyOne, hreply]
    omega
  | await hi => simp [h.plain _ (Instr.isPlain_of_bid hi), h.plain (.retry _) rfl]
  | refuse hi _ hsame hpush => rw [h.same hsame, plain hpush, h.plain _ (Instr.isPlain_of_bid hi)]
  | other hi _ hsame hpush => rw [h.same hsame, plain hpush, h.plain _ hi]
  | take hi _ hitems =>
    have := h.take sh t _ _ hitems
    simp only [load_cons, load_nil, h.seek _ hi, h.notifyOne]
    omega
  | idle hi => simp [h.seek _ hi, h.seek .retake rfl]
  | leave hi => simp [h.seek _ hi, h.plain (.say _) rfl, h.plain .release rfl]
  | @start x =>
    have := h.started sh t x (u.code.handler x)
    simp only [load_cons, load_nil]
    omega
  | @call role c next =>
    simp [plain (c.isPlain_instrs sh.now), h.resume role next (.call c next)]
  | @resume role next held => simp [h.resume role next (next held)]
  | @handled x ending => exact h.handled sh t x ending _
  | finish =>
    have := h.finish sh hle
    simp only [load_append]
    split <;> simp only [load_cons, load_nil, h.resolve, htake] <;> omega
  | resolve _ hnews =>
    have := h.settled sh t
    simp [this, plain hnews, h.resolve]
  | resolveLate => simp [h.resolve]
  | complete _ hnews =>
    have := h.complete sh
    have hi : w .completeAdding = 0 := h.plain _ rfl
    simp only [load_append, load_cons, load_nil, plain hnews, h.notifyAll, hreply, this, hi]
    split <;> simp [h.resolve]
  | close _ hnews =>
    have := h.close sh t sh.buffer.value.isDrained
    have hi : w .dispose = 0 := h.plain _ rfl
    simp only [load_append, load_cons, load_nil, plain hnews, h.notifyAll, h.resolve, hi]
    omega
  | bump => simpa using h.bump sh _ _
  | notifyOne => simp [h.notifyOne]
  | notifyAll => simp [h.notifyAll]

/-- An account is the weight of what the threads have still to do. -/
theorem Reachable.account (h : Account u F w) {s : State ι} (hr : Reachable u s) :
    F s.shared = total w s.stacks := by
  refine hr.shift_induction (I := fun sh ss => F sh = total w ss) ?_ ?_
  · have hzero : total w u.start.stacks = 0 := by
      refine total_eq_zero fun th hth i hi => ?_
      obtain ⟨k, -, rfl⟩ := List.mem_map.1 hth
      simp only [List.mem_cons, List.not_mem_nil, or_false] at hi
      rcases hi with rfl | rfl
      · exact h.plain _ rfl
      · exact h.seek _ rfl
    rw [hzero, h.start]; rfl
  · intro s sh ss _ hsh ih
    cases hsh with
    | @act t i rest e ht hact =>
      have hset := total_set (w := w) (e.push ++ rest) ht
      have hle := load_le_total (w := w) (List.mem_of_getElem? ht)
      rw [load_cons] at hset hle
      rw [load_append] at hset
      have := h.act hact (by omega)
      omega
    | @answer t role label rest script ht =>
      have hset := total_set (w := w) (.run role script :: rest) ht
      rw [load_cons, load_cons, h.run role script (.pause label)] at hset
      omega
    | spawn script =>
      have hrun : w (.run .client script) = 0 := h.plain _ rfl
      rw [total_append]
      simpa [total, hrun] using ih
    | same hsame => rw [h.same hsame, ih]

end Account

/-! ## The accounts of a queue -/

/-- What an instruction has still to add to counter `c`. -/
def Instr.owed (c : Counter) : Instr ι → Nat
  | .bump c' n => if c' = c then n else 0
  | _ => 0

/-- How often what counter `c` counts has happened; refusals are not followed up here. -/
def Shared.recorded (s : Shared ι) : Counter → Nat
  | .enqueued => s.accepted.length
  | .processed => s.successes
  | .failed => s.failures
  | .abandoned => s.abandoned.length
  | .rejected => 0

/-- How much a note adds to what counter `c` counts. -/
def Note.counts : Note ι → Counter → Nat
  | .accepted _, .enqueued => 1
  | .handled _ e, .processed => if e.isSuccess then 1 else 0
  | .handled _ e, .failed => if e.isSuccess then 0 else 1
  | .abandoned xs _, .abandoned => xs.length
  | _, _ => 0

namespace Shared

variable (s : Shared ι) (t : ThreadId) (c : Counter)

@[simp] theorem recorded_note (n : Note ι) : (s.note t n).recorded c = s.recorded c + n.counts c := by
  cases c <;> cases n <;> simp [recorded, accepted, successes, failures, abandoned, acceptances, endings, disposals,
    Note.counts, Note.accepted?, Note.handled?, Note.abandoned?, List.countP_singleton]
  split <;> simp_all

@[simp] theorem recorded_setBuffer (b : Buffer ι) : (s.setBuffer b).recorded c = s.recorded c := rfl

@[simp] theorem recorded_settled (b : Bool) : (s.settled b).recorded c = s.recorded c := rfl

@[simp] theorem recorded_count (c' : Counter) (n : Nat) : (s.count c' n).recorded c = s.recorded c := rfl

theorem recorded_same {s s' : Shared ι} (h : s.Same s') (c : Counter) : s'.recorded c = s.recorded c := by
  cases c <;> simp only [recorded, accepted, successes, failures, abandoned, h.acceptances, h.endings, h.disposals]

end Shared

theorem isWeight_closing : IsWeight (ι := ι) Instr.closing where
  plain _ h := Instr.closing_of_isPlain h
  seek _ h := Instr.closing_of_isSeek h
  notifyOne _ := rfl
  notifyAll _ := rfl
  resolve _ := rfl
  run _ _ _ := rfl
  resume _ _ _ := rfl

theorem isWeight_pending : IsWeight (ι := ι) Instr.pending where
  plain _ h := Instr.pending_of_isPlain h
  seek _ h := Instr.pending_of_isSeek h
  notifyOne _ := rfl
  notifyAll _ := rfl
  resolve _ := rfl
  run := Instr.pending_run
  resume := Instr.pending_resume

theorem isWeight_owed {c : Counter} (hc : c ≠ .rejected) : IsWeight (ι := ι) (Instr.owed c) where
  plain i h := by
    cases i with
    | bump c' n =>
      have h' : c' = .rejected := by simpa [Instr.isPlain] using h
      have hne : c' ≠ c := fun he => hc (he.symm.trans h')
      rw [Instr.owed, if_neg hne]
    | _ => rfl
  seek i h := by cases i <;> simp_all [Instr.isSeek, Instr.owed]
  notifyOne _ := rfl
  notifyAll _ := rfl
  resolve _ := rfl
  run _ _ _ := rfl
  resume _ _ _ := rfl

/-- The busy workers are those that have a finish before them. -/
theorem account_busy (u : Setup ι) : Account u (fun s => (s.buffer.value.busy : Int)) Instr.closing where
  toIsWeight := isWeight_closing
  start := rfl
  same h := by rw [h.buffer]
  accept _ _ _ := by simp [Instr.closing]
  take _ _ _ _ _ := by simp [Instr.closing]
  started _ _ _ _ := by simp [Instr.closing]
  handled _ _ _ e _ := by
    cases e <;> simp [Shared.noteEnding, Ending.report, Ending.fault?, raise, Instr.closing]
  finish sh h := by
    have hpos : (1 : Int) ≤ sh.buffer.value.busy := h
    simp only [Shared.setBuffer_value, Buffer.free_busy, Instr.closing]
    omega
  settled _ _ _ := by simp
  complete _ := by simp
  close _ _ _ := by simp [Instr.closing]
  bump _ _ _ := by simp [Instr.closing]

/-- A counter is behind its events by what the threads have still to add to it. -/
theorem account_recorded (u : Setup ι) {c : Counter} (hc : c ≠ .rejected) :
    Account u (fun s => (s.recorded c : Int) - s.counters.get c) (Instr.owed c) where
  toIsWeight := isWeight_owed hc
  start := by cases c <;> rfl
  same h := by rw [h.counters, Shared.recorded_same h]
  accept _ _ _ := by
    cases c <;> simp [Note.counts, Instr.owed]
    omega
  take _ _ _ _ _ := by cases c <;> simp [Note.counts, Instr.owed]
  started _ _ _ _ := by cases c <;> simp [Note.counts, Instr.owed]
  handled _ _ _ e _ := by
    cases c <;> cases e <;> simp [Shared.noteEnding, Ending.report, Ending.fault?, raise, Note.counts, Instr.owed,
      Ending.isSuccess] <;> omega
  finish _ _ := by simp [Instr.owed]
  settled _ _ _ := by cases c <;> simp [Note.counts]
  complete _ := by simp
  close _ _ _ := by
    cases c <;> simp [Note.counts, Instr.owed]
    omega
  bump sh c' n := by
    by_cases h : c' = c <;> simp [Instr.owed, h]
    omega

/-- Every accepted item is in the buffer, with a worker that has still to record its outcome, recorded or abandoned. -/
theorem account_items (u : Setup ι) :
    Account u (fun s => (s.recorded .enqueued : Int) - s.buffer.value.items.length - s.counters.get .processed -
      s.counters.get .failed - s.recorded .abandoned) Instr.pending where
  toIsWeight := isWeight_pending
  start := rfl
  same h := by rw [h.buffer, h.counters, Shared.recorded_same h, Shared.recorded_same h]
  accept _ _ _ := by
    simp only [Shared.recorded_note, Shared.recorded_setBuffer, Shared.note_buffer, Shared.note_counters,
      Shared.setBuffer_value, Shared.setBuffer_counters, Buffer.push_items, List.length_append, List.length_singleton,
      Note.counts, Instr.pending]
    omega
  take _ _ _ _ h := by
    simp [Note.counts, Instr.pending, h]
    omega
  started _ _ _ _ := by simp [Note.counts, Instr.pending]
  handled _ _ _ e _ := by
    cases e <;> simp [Shared.noteEnding, Ending.report, Ending.fault?, raise, Note.counts, Instr.pending]
  finish _ _ := by simp [Instr.pending]
  settled _ _ _ := by simp [Note.counts]
  complete _ := by simp
  close _ _ _ := by
    simp [Note.counts, Instr.pending]
    omega
  bump _ c n := by
    cases c <;> simp [Instr.pending] <;> omega

section Reachable

variable {u : Setup ι} {s : State ι}

theorem Reachable.busy_eq (h : Reachable u s) : s.shared.buffer.value.busy = total Instr.closing s.stacks :=
  Int.ofNat.inj (h.account (account_busy u))

theorem Reachable.recorded_eq (h : Reachable u s) {c : Counter} (hc : c ≠ .rejected) :
    s.shared.recorded c = s.shared.counters.get c + total (Instr.owed c) s.stacks := by
  have := h.account (account_recorded u hc)
  omega

theorem Reachable.accepted_eq (h : Reachable u s) :
    s.shared.accepted.length = s.shared.buffer.value.items.length + total Instr.pending s.stacks +
      s.shared.counters.processed + s.shared.counters.failed + s.shared.abandoned.length := by
  have := h.account (account_items u)
  simp only [Shared.recorded, Counters.get] at this
  omega

end Reachable

/-! ## Counting workers -/

/-- Whether anything on a stack has weight. -/
def weighs (w : Instr ι → Nat) (st : List (Instr ι)) : Bool := st.any fun i => w i != 0

theorem load_eq_ite {w : Instr ι → Nat} {st : List (Instr ι)} (h : load w st ≤ 1) :
    load w st = if weighs w st then 1 else 0 := by
  split
  · rename_i hw
    obtain ⟨i, hi, hwi⟩ := List.any_eq_true.1 hw
    have := weight_le_load (w := w) hi
    have hne : w i ≠ 0 := by simpa using hwi
    omega
  · rename_i hw
    refine load_eq_zero fun i hi => ?_
    by_contra hne
    exact hw (List.any_eq_true.2 ⟨i, hi, by simpa using hne⟩)

theorem total_eq_countP {w : Instr ι → Nat} {ss : List (List (Instr ι))} (h : ∀ st ∈ ss, load w st ≤ 1) :
    total w ss = ss.countP (weighs w) := by
  induction ss with
  | nil => rfl
  | cons st ss ih =>
    rw [List.countP_cons, ← ih fun st' hst => h st' (List.mem_cons_of_mem _ hst),
      ← load_eq_ite (h st List.mem_cons_self), Nat.add_comm]
    rfl

/-- Where a worker weighs at most one and a client nothing, the total is the number of workers that weigh. -/
theorem total_eq_workers {u : Setup ι} {w : Instr ι → Nat} {ss : List (List (Instr ι))}
    (h : ∀ t, load w (stackAt ss t) ≤ if t < u.workers then 1 else 0) :
    total w ss = (ss.take u.workers).countP (weighs w) := by
  have hget : ∀ {t st}, ss[t]? = some st → load w st ≤ if t < u.workers then 1 else 0 := fun {t st} ht =>
    stackAt_of_getElem? ht ▸ h t
  have hdrop : total w (ss.drop u.workers) = 0 := by
    refine load_eq_zero fun st hst => ?_
    obtain ⟨k, hk⟩ := List.mem_iff_getElem?.1 hst
    have := hget (List.getElem?_drop ▸ hk)
    rwa [if_neg (by omega), Nat.le_zero] at this
  have htake : ∀ st ∈ ss.take u.workers, load w st ≤ 1 := by
    intro st hst
    obtain ⟨t, ht⟩ := List.mem_iff_getElem?.1 (List.mem_of_mem_take hst)
    have := hget ht
    split at this <;> omega
  rw [← total_eq_countP htake]
  conv_lhs => rw [← List.take_append_drop u.workers ss]
  rw [total_append, hdrop, Nat.add_zero]

namespace Thread

/-- Whether the thread is between a take and the finish that matches it. -/
def isBusy (th : Thread ι) : Bool := weighs Instr.closing th.stack

/-- Whether the thread has an item whose outcome is not recorded. -/
def hasItem (th : Thread ι) : Bool := weighs Instr.pending th.stack

/-- Whether the thread has an item whose handler has not ended. -/
def isAtWork (th : Thread ι) : Bool := th.stack.any fun i => i.starting?.isSome || i.handling?.isSome

end Thread

theorem countP_stacks (s : State ι) (n : Nat) (w : Instr ι → Nat) :
    (s.stacks.take n).countP (weighs w) = (s.threads.take n).countP fun th => weighs w th.stack := by
  rw [State.stacks, ← List.map_take, List.countP_map]
  rfl

section Reachable

variable {u : Setup ι} {s : State ι}

/-- The number of busy workers is the number of workers with a finish before them. -/
theorem Reachable.busy_eq_countP (h : Reachable u s) :
    s.shared.buffer.value.busy = (s.threads.take u.workers).countP Thread.isBusy := by
  rw [h.busy_eq, total_eq_workers fun t => (h.inRound t).disciplined.closing_le, countP_stacks]
  rfl

/-- The work that is left is with as many workers. -/
theorem Reachable.pending_eq_countP (h : Reachable u s) :
    total Instr.pending s.stacks = (s.threads.take u.workers).countP Thread.hasItem := by
  rw [total_eq_workers fun t => (h.inRound t).disciplined.2.le.trans (h.inRound t).disciplined.closing_le,
    countP_stacks]
  rfl

theorem Reachable.busy_le (h : Reachable u s) : s.shared.buffer.value.busy ≤ u.workers := by
  rw [h.busy_eq_countP]
  exact List.countP_le_length.trans (List.length_take_le _ _)

/-- A worker that is about to finish is counted as busy. -/
theorem Reachable.busy_pos (h : Reachable u s) {th : Thread ι} (hth : th ∈ s.threads) (hf : .finish ∈ th.stack) :
    0 < s.shared.buffer.value.busy := by
  have hle := load_le_total (w := Instr.closing) (List.mem_map_of_mem (f := Thread.stack) hth)
  have hone : Instr.closing (.finish : Instr ι) ≤ load Instr.closing th.stack := weight_le_load hf
  rw [h.busy_eq]
  exact hone.trans hle

end Reachable

/-! ## The statistics at rest -/

/-- No addition and no disposal has a counter to change, and every busy worker's handler has still to end. -/
structure AtRest (s : State ι) : Prop where
  nothingOwed : ∀ th ∈ s.threads, ∀ i ∈ th.stack, i.owed .enqueued = 0 ∧ i.owed .abandoned = 0
  atWork : ∀ th ∈ s.threads, th.isBusy = true → th.isAtWork = true

instance (s : State ι) : Decidable (AtRest s) :=
  decidable_of_iff ((∀ th ∈ s.threads, ∀ i ∈ th.stack, i.owed .enqueued = 0 ∧ i.owed .abandoned = 0) ∧
      ∀ th ∈ s.threads, th.isBusy = true → th.isAtWork = true)
    ⟨fun h => ⟨h.1, h.2⟩, fun h => ⟨h.nothingOwed, h.atWork⟩⟩

/-- The equation between the counters, the buffer and the busy workers. -/
def Stats.Balanced (k : Stats) : Prop := k.enqueued = k.processed + k.failed + k.abandoned + k.pending + k.active

theorem Instr.pending_of_item {i : Instr ι} (h : (i.starting?.isSome || i.handling?.isSome) = true) :
    i.pending = 1 := by
  cases i with
  | run role script => cases role <;> simp_all [starting?, handling?, pending]
  | resume role next => cases role <;> simp_all [starting?, handling?, pending]
  | _ => simp_all [starting?, handling?, pending]

section Reachable

variable {u : Setup ι} {s : State ι}

/-- At rest, a worker has an item to record exactly as long as it is busy. -/
theorem Reachable.pending_eq_closing (h : Reachable u s) (hrest : AtRest s) :
    total Instr.pending s.stacks = total Instr.closing s.stacks := by
  refine Nat.le_antisymm (total_le_total fun t => (h.inRound t).disciplined.2.le) (load_le_load fun st hst => ?_)
  obtain ⟨th, hth, rfl⟩ := List.mem_map.1 hst
  obtain ⟨t, ht⟩ := List.mem_iff_getElem?.1 hst
  have hd := (h.inRound t).disciplined
  rw [stackAt_of_getElem? ht] at hd
  have hone := load_eq_ite hd.closing_le_one
  split at hone
  · rename_i hbusy
    obtain ⟨i, hi, hit⟩ := List.any_eq_true.1 (hrest.atWork th hth hbusy)
    have := weight_le_load (w := Instr.pending) hi
    rw [Instr.pending_of_item hit] at this
    omega
  · omega

/-- At rest, the counters of additions and abandoned items are up to date. -/
theorem Reachable.recorded_of_atRest (h : Reachable u s) (hrest : AtRest s) :
    s.shared.counters.enqueued = s.shared.accepted.length ∧
      s.shared.counters.abandoned = s.shared.abandoned.length := by
  have he := h.recorded_eq (c := .enqueued) (by decide)
  have ha := h.recorded_eq (c := .abandoned) (by decide)
  rw [total_eq_zero fun th hth i hi => (hrest.nothingOwed th hth i hi).1] at he
  rw [total_eq_zero fun th hth i hi => (hrest.nothingOwed th hth i hi).2] at ha
  exact ⟨he.symm, ha.symm⟩

theorem Reachable.stats_balanced (h : Reachable u s) (hrest : AtRest s) : s.shared.stats.Balanced := by
  obtain ⟨he, ha⟩ := h.recorded_of_atRest hrest
  have hacc := h.accepted_eq
  rw [h.pending_eq_closing hrest, ← h.busy_eq] at hacc
  simp only [Stats.Balanced, Shared.stats, Guarded.recovered]
  omega

end Reachable

/-! ## Reading the statistics -/

section Reading

variable {u : Setup ι} {s : State ι} {t : ThreadId} {th : Thread ι} {rest : List (Instr ι)}

/-- The statistics with one counter read. -/
def Stats.read (k : Counters) (st : Stats) (c : Counter) : Stats :=
  { st with toCounters := st.toCounters.set (k.get c) c }

/-- Counters that are read one after the other, nobody else moving. -/
theorem execute_loads {l : List Counter} {k : Stats} (ht : s.threads[t]? = some th) (hawake : th.asleep = none)
    (hst : th.stack = l.map .load ++ rest) (hr : th.reply = .stats k) :
    ∃ th', execute u s (runs t l.length) = some { s with threads := s.threads.set t th' } ∧
      th'.stack = rest ∧ th'.reply = .stats (l.foldl (Stats.read s.shared.counters) k) := by
  induction l generalizing s th k with
  | nil => exact ⟨th, by simp [runs, set_of_getElem? ht], hst, hr⟩
  | cons c l ih =>
    have he : perform u s.shared s.hasEnded t th.reply (.load c) =
        some { shared := s.shared, reply := some (.stats (k.read s.shared.counters c)) } := by
      rw [hr]; rfl
    have hs := step_run ht hawake hst he rfl
    have hget := List.getElem?_set_self (a := th.after (l.map .load ++ rest)
      { shared := s.shared, reply := some (.stats (k.read s.shared.counters c)) }) (List.getElem?_eq_some_iff.1 ht).1
    obtain ⟨th', hex, hst', hr'⟩ := ih (s := ⟨s.shared, s.threads.set t _⟩) hget rfl rfl rfl
    rw [List.set_set] at hex
    refine ⟨th', ?_, hst', hr'⟩
    rw [runs, List.length_cons, List.replicate_succ, execute_cons, hs]
    exact hex

/-- A call for the statistics that nobody else interrupts replies what `Shared.stats` says and changes nothing. -/
theorem execute_stats (ht : s.threads[t]? = some th) (hawake : th.asleep = none) (hst : th.stack = .stats :: rest) :
    ∃ th', execute u s (runs t 6) = some { s with threads := s.threads.set t th' } ∧
      th'.stack = rest ∧ th'.reply = .stats s.shared.stats := by
  let b := s.shared.buffer.recovered
  let e : Effect ι :=
    { shared := s.shared, push := loads, reply := some (.stats { pending := b.items.length, active := b.busy }) }
  have hs : step u s (.run t none) = some ⟨s.shared, s.threads.set t (th.after rest e)⟩ :=
    step_run ht hawake hst rfl rfl
  have hget := List.getElem?_set_self (a := th.after rest e) (List.getElem?_eq_some_iff.1 ht).1
  obtain ⟨th', hex, hst', hr'⟩ := execute_loads (u := u) (s := ⟨s.shared, s.threads.set t (th.after rest e)⟩)
    (l := [.enqueued, .processed, .failed, .rejected, .abandoned]) hget rfl rfl rfl
  rw [List.set_set] at hex
  refine ⟨th', ?_, hst', hr'⟩
  rw [runs, List.replicate_succ, execute_cons, hs]
  exact hex

end Reading

/-! ## The balance of the books -/

/-- In every reachable state, the busy count is the number of workers between a take and the finish that matches it,
and never zero when a finish is due; every item ever accepted is in the buffer, with a worker, recorded or abandoned;
and at rest the statistics balance, also as a call reads them. -/
theorem books_balance {u : Setup ι} {s : State ι} (h : Reachable u s) :
    (s.shared.buffer.value.busy = (s.threads.take u.workers).countP Thread.isBusy ∧
      s.shared.buffer.value.busy ≤ u.workers ∧
      ∀ th ∈ s.threads, .finish ∈ th.stack → 0 < s.shared.buffer.value.busy) ∧
    s.shared.accepted.length =
      s.shared.buffer.value.items.length + (s.threads.take u.workers).countP Thread.hasItem +
        s.shared.counters.processed + s.shared.counters.failed + s.shared.abandoned.length ∧
    (AtRest s → s.shared.stats.Balanced ∧
      ∀ t th rest, s.threads[t]? = some th → th.asleep = none → th.stack = .stats :: rest →
        ∃ s' k, execute u s (runs t 6) = some s' ∧ s'.reply? t = some (.stats k) ∧ k.Balanced) := by
  refine ⟨⟨h.busy_eq_countP, h.busy_le, fun th hth hf => h.busy_pos hth hf⟩, ?_, fun hrest => ?_⟩
  · rw [h.accepted_eq, h.pending_eq_countP]
  · have hb := h.stats_balanced hrest
    refine ⟨hb, fun t th rest ht hawake hst => ?_⟩
    obtain ⟨th', hex, -, hr⟩ := execute_stats (u := u) ht hawake hst
    refine ⟨_, s.shared.stats, hex, ?_, hb⟩
    rw [reply?_set ht, hr]

/-- A client adds two items and asks for the statistics while the worker is at the first. -/
def sampleReading : List (Choice Nat) :=
  .spawn (.call (.add .owner 7 none) fun _ => .call (.add .owner 8 none) fun _ => .just .stats) :: runs 1 13 ++ runs 0 4

theorem sample_books_balance :
    AtRest (after sample sampleReading) ∧ (after sample sampleReading).shared.accepted = [7, 8] ∧
      (after sample sampleReading).shared.buffer.value.busy = 1 ∧
      ∃ s' k, execute sample (after sample sampleReading) (runs 1 6) = some s' ∧ s'.reply? 1 = some (.stats k) ∧
        k.Balanced := by
  have hrest : AtRest (after sample sampleReading) := by decide
  have h := books_balance (reachable_after sample sampleReading)
  exact ⟨hrest, rfl, rfl, (h.2.2 hrest).2 1 _ _ rfl rfl rfl⟩

end Conveyor.Queue
