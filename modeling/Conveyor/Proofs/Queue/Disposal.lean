import Conveyor.Proofs.Queue.Fifo
import Conveyor.Proofs.Queue.Ledger
import Conveyor.Proofs.Queue.Poison
import Conveyor.Proofs.Queue.Return
import Conveyor.Proofs.Queue.Turn

/-!
# Disposal is final

What a disposed queue keeps, whatever its threads go on to do, is `Frozen`; every turn keeps it (`Turn.frozen`). What
was under way at the disposal may still be counted, and no more than that (`Reachable.abandoned_owed`,
`Turn.rejected_le`); a call that starts afterwards is denied, and nobody notices (`bound_operation`).
The same is true of calls on a queue whose lock is poisoned, disposed or not (`Barred`, `bound_denied`).

* `disposal_final`: all this, from the step that disposes the queue on.
-/

namespace Conveyor.Queue

variable {ι : Type}

/-! ## What a disposed queue keeps -/

/-- The queue is disposed in `sh'`, its buffer is empty, and it has accepted, taken and abandoned what it had in `sh`;
its lock is poisoned if it was, and if the queue was gone it still is. -/
structure Frozen (sh sh' : Shared ι) : Prop where
  disposed : sh'.buffer.value.disposed = true
  items : sh'.buffer.value.items = []
  addingCompleted : sh'.buffer.value.addingCompleted = sh.buffer.value.addingCompleted
  acceptances : sh'.acceptances = sh.acceptances
  takes : sh'.takes = sh.takes
  disposals : sh'.disposals = sh.disposals
  poisoned : sh'.buffer.poisoned = sh.buffer.poisoned
  gone : sh.strong = 0 → sh'.strong = 0

namespace Frozen

variable {sh sh' sh'' : Shared ι}

theorem refl (hd : sh.buffer.value.disposed = true) (hitems : sh.buffer.value.items = []) : Frozen sh sh :=
  ⟨hd, hitems, rfl, rfl, rfl, rfl, rfl, id⟩

theorem trans (h : Frozen sh sh') (h' : Frozen sh' sh'') : Frozen sh sh'' where
  disposed := h'.disposed
  items := h'.items
  addingCompleted := h'.addingCompleted.trans h.addingCompleted
  acceptances := h'.acceptances.trans h.acceptances
  takes := h'.takes.trans h.takes
  disposals := h'.disposals.trans h.disposals
  poisoned := h'.poisoned.trans h.poisoned
  gone hs := h'.gone (h.gone hs)

theorem same (hd : sh.buffer.value.disposed = true) (hitems : sh.buffer.value.items = []) (h : sh.Same sh')
    (hp : sh'.buffer.poisoned = sh.buffer.poisoned) (hg : sh.strong = 0 → sh'.strong = 0) : Frozen sh sh' :=
  ⟨by rw [h.buffer, hd], by rw [h.buffer, hitems], by rw [h.buffer], h.acceptances, h.takes, h.disposals, hp, hg⟩

theorem accepted (h : Frozen sh sh') : sh'.accepted = sh.accepted := congrArg (List.map Prod.snd) h.acceptances

theorem taken (h : Frozen sh sh') : sh'.taken = sh.taken := congrArg (List.map Prod.snd) h.takes

theorem abandoned (h : Frozen sh sh') : sh'.abandoned = sh.abandoned := by
  rw [Shared.abandoned, h.disposals]
  rfl

end Frozen

section Acts

variable {u : Setup ι} {sh : Shared ι} {t : ThreadId} {i : Instr ι} {e : Effect ι}

/-- The lock of a disposed queue is poisoned no more. -/
theorem Voice.poisoned (hvoice : Voice u sh t i e) (hd : sh.buffer.value.disposed = true) :
    e.shared.buffer.poisoned = sh.buffer.poisoned := by
  cases hvoice with
  | @handled x ending => cases ending <;> rfl
  | publish hhush => exact hhush.poisoned hd
  | hush _ _ hhush => exact hhush.poisoned hd
  | _ => rfl

/-- A queue that is gone does not come back. -/
theorem Voice.gone (hvoice : Voice u sh t i e) (hgone : sh.strong = 0) : e.shared.strong = 0 := by
  cases hvoice with
  | @handled x ending => cases ending <;> exact hgone
  | publish hhush => exact hhush.gone hgone
  | hush _ _ hhush => exact hhush.gone hgone
  | _ => exact hgone

/-- Nothing brings a disposed queue back to life. -/
theorem Act.frozen (hact : Act u sh t i e) (hvoice : Voice u sh t i e) (hd : sh.buffer.value.disposed = true)
    (hitems : sh.buffer.value.items = []) : Frozen sh e.shared := by
  have hp := hvoice.poisoned hd
  have hg := hvoice.gone
  cases hact with
  | accept _ hopen => simp [Buffer.isClosed, hd] at hopen
  | take _ hopen => simp [hd] at hopen
  | complete hopen => simp [hd] at hopen
  | close hopen => simp [hd] at hopen
  | refuse _ _ hsame => exact .same hd hitems hsame hp hg
  | other _ _ hsame => exact .same hd hitems hsame hp hg
  | handled =>
    refine ⟨by simpa using hd, by simpa using hitems, by simp, ?_, ?_, ?_, hp, hg⟩ <;>
      simp [Note.accepted?, Note.taken?, Note.abandoned?]
  | start =>
    exact ⟨hd, hitems, rfl, by simp [Note.accepted?], by simp [Note.taken?], by simp [Note.abandoned?], hp, hg⟩
  | resolve =>
    exact ⟨hd, hitems, rfl, by simp [Note.accepted?], by simp [Note.taken?], by simp [Note.abandoned?], hp, hg⟩
  | _ => exact ⟨hd, hitems, rfl, rfl, rfl, rfl, hp, hg⟩

/-- Only a disposal disposes the queue, and it abandons the whole buffer. -/
theorem Act.close_of_disposed (hact : Act u sh t i e) (hopen : sh.buffer.value.disposed = false)
    (hd : e.shared.buffer.value.disposed = true) :
    e.shared = (sh.setBuffer sh.buffer.value.close).note t
      (.abandoned sh.buffer.value.items sh.buffer.value.isDrained) := by
  cases hact with
  | close => rfl
  | refuse _ _ hsame => rw [hsame.buffer, hopen] at hd; cases hd
  | other _ _ hsame => rw [hsame.buffer, hopen] at hd; cases hd
  | handled => simp [hopen] at hd
  | _ => exact absurd (hopen.symm.trans hd) Bool.false_ne_true

end Acts

section Runs

variable {u : Setup ι} {s s' : State ι} {c : Choice ι} {cs : List (Choice ι)}

theorem Turn.frozen {sh sh' : Shared ι} {ss ss' : List (List (Instr ι))} {d : Option (Deed ι)}
    (h : Turn u sh ss d sh' ss') (hd : sh.buffer.value.disposed = true) (hitems : sh.buffer.value.items = []) :
    Frozen sh sh' := by
  cases h with
  | act _ hact hvoice => exact hact.frozen hvoice hd hitems
  | same hsame hhush => exact .same hd hitems hsame (hhush.poisoned hd) hhush.gone
  | _ => exact .refl hd hitems

theorem Turn.gone {sh sh' : Shared ι} {ss ss' : List (List (Instr ι))} {d : Option (Deed ι)}
    (h : Turn u sh ss d sh' ss') (hgone : sh.strong = 0) : sh'.strong = 0 := by
  cases h with
  | act _ _ hvoice => exact hvoice.gone hgone
  | same _ hhush => exact hhush.gone hgone
  | _ => exact hgone

/-- What a disposed queue has kept so far it keeps. -/
theorem kept_frozen (sh : Shared ι) : Kept u (Frozen sh) := fun hr hs h =>
  h.trans ((hr.turn hs).frozen h.disposed h.items)

/-- From its disposal on, a queue is frozen. -/
theorem Reachable.frozen (h : Reachable u s) (hd : s.shared.buffer.value.disposed = true)
    (he : Queue.execute u s cs = some s') : Frozen s.shared s'.shared :=
  h.execute_induction (P := fun s₁ => Frozen s.shared s₁.shared) (kept_frozen s.shared) he
    (.refl hd (h.fifo.disposed hd).1)

/-- The step that disposes the queue. -/
theorem Turn.close_of_disposed {sh sh' : Shared ι} {ss ss' : List (List (Instr ι))} {d : Option (Deed ι)}
    (h : Turn u sh ss d sh' ss') (hopen : sh.buffer.value.disposed = false) (hd : sh'.buffer.value.disposed = true) :
    ∃ t, sh' = (sh.setBuffer sh.buffer.value.close).note t
      (.abandoned sh.buffer.value.items sh.buffer.value.isDrained) := by
  cases h with
  | @act t i rest e ht hact => exact ⟨t, hact.close_of_disposed hopen hd⟩
  | same hsame => rw [hsame.buffer, hopen] at hd; cases hd
  | _ => exact absurd (hopen.symm.trans hd) Bool.false_ne_true

/-- What a disposal abandons is what is in the buffer. -/
theorem Turn.abandoned_of_disposed {sh sh' : Shared ι} {ss ss' : List (List (Instr ι))} {d : Option (Deed ι)}
    (h : Turn u sh ss d sh' ss') (hf : Fifo u sh) (hopen : sh.buffer.value.disposed = false)
    (hd : sh'.buffer.value.disposed = true) : sh'.abandoned = sh.buffer.value.items := by
  obtain ⟨t, rfl⟩ := h.close_of_disposed hopen hd
  have hnone : sh.abandoned = [] := by rw [Shared.abandoned, hf.undisposed hopen]; rfl
  simp [Note.abandoned?, hnone]

end Runs

/-! ## What may still be counted -/

/-- How much an instruction on a disposed queue may still add to the refusals. -/
def Instr.mayReject : Instr ι → Nat
  | .retry _ => 1
  | .bump .rejected n => n
  | _ => 0

theorem Instr.mayReject_of_isTacit {i : Instr ι} (h : i.isTacit = true) : i.mayReject = 0 := by
  cases i with
  | bump c n => cases c <;> simp_all [isTacit, mayReject]
  | _ => simp_all [isTacit, mayReject]

section Voices

variable {u : Setup ι} {sh : Shared ι} {t : ThreadId} {i : Instr ι} {e : Effect ι}

/-- Only a disposal leaves abandoned items to be counted, and it leaves all of them. -/
theorem Voice.abandoned_cases (hvoice : Voice u sh t i e) {n : Nat} (h : .bump .abandoned n ∈ e.push) :
    sh.buffer.value.disposed = false ∧ n = sh.buffer.value.items.length ∧
      e.shared.buffer.value.disposed = true := by
  cases hvoice with
  | close hopen =>
    refine ⟨hopen, ?_, rfl⟩
    simpa using h
  | @handled x ending => cases ending <;> simp [Ending.report, Ending.fault?, raise] at h
  | publish _ hpush => obtain ⟨k, hk⟩ := hpush _ h; cases hk
  | hush _ _ _ hpush => simpa [Instr.isTacit] using Instr.isTacit_of_isTacitAfter (hpush _ h)
  | complete =>
    simp only [List.mem_append] at h
    rcases h with ((h | h) | h) | h
    · simp at h
    · split at h <;> simp at h
    · split at h <;> simp at h
    · simp at h
  | @resolve drained => cases drained <;> simp at h
  | _ => simp [raise, Shared.refusal] at h

/-- On a disposed queue, an instruction that adds to the refusals or leaves it to be done was able to. -/
theorem Voice.rejected_le (hvoice : Voice u sh t i e) (hd : sh.buffer.value.disposed = true) :
    e.shared.counters.rejected + load Instr.mayReject e.push ≤ sh.counters.rejected + i.mayReject := by
  cases hvoice with
  | refuse _ _ hlate =>
    rw [hlate hd]
    simp [raise, Shared.refusal, Instr.mayReject]
  | await _ hopen => simp [Buffer.isClosed, hd] at hopen
  | @handled x ending => cases ending <;> simp [Ending.report, Ending.fault?, raise, Instr.mayReject]
  | complete hopen => simp [hd] at hopen
  | close hopen => simp [hd] at hopen
  | @resolve drained => cases drained <;> simp [Instr.mayReject]
  | @bump c n => cases c <;> simp [Counters.add, Counters.get, Counters.set, Instr.mayReject]
  | dispatch =>
    refine Nat.le_trans (Nat.le_of_eq ?_) (Nat.le_add_right _ _)
    rw [load_eq_zero fun j hj => ?_, Nat.add_zero]
    obtain ⟨c, -, rfl⟩ := List.mem_map.1 hj
    rfl
  | invoke => simp [Instr.mayReject]
  | @publish x e hhush hpush =>
    have hzero : load Instr.mayReject e.push = 0 := load_eq_zero fun j hj => by
      obtain ⟨n, rfl⟩ := hpush j hj
      rfl
    rw [hhush.counters, hzero]
    exact Nat.le_add_right _ _
  | hush _ _ hhush hpush =>
    have hzero : load Instr.mayReject e.push = 0 := load_eq_zero fun j hj =>
      Instr.mayReject_of_isTacit (Instr.isTacit_of_isTacitAfter (hpush j hj))
    rw [hhush.counters, hzero]
    exact Nat.le_add_right _ _

end Voices

section Runs

variable {u : Setup ι} {s s' : State ι} {cs : List (Choice ι)}

/-- Who has abandoned items to count has all of them to count. -/
theorem Reachable.abandoned_owed (h : Reachable u s) :
    ∀ st ∈ s.stacks, ∀ n, .bump .abandoned n ∈ st →
      s.shared.buffer.value.disposed = true ∧ n = s.shared.abandoned.length := by
  refine h.turn_induction (I := fun sh ss => ∀ st ∈ ss, ∀ n, .bump .abandoned n ∈ st →
    sh.buffer.value.disposed = true ∧ n = sh.abandoned.length) ?_ ?_
  · intro st hst n hn
    rw [start_stacks] at hst
    obtain ⟨k, -, rfl⟩ := List.mem_map.1 hst
    simp at hn
  · intro s d sh ss hr hturn ih st hst n hn
    rcases hturn.origin ⟨st, hst, hn⟩ with
      ⟨st, hst, hn⟩ | ⟨role, script, hrun⟩ | ⟨t, i, rest, e, -, -, hvoice, rfl, hn⟩
    · obtain ⟨hd, hlen⟩ := ih st hst n hn
      have hfrozen := hturn.frozen hd (hr.fifo.disposed hd).1
      exact ⟨hfrozen.disposed, by rw [hfrozen.abandoned]; exact hlen⟩
    · cases hrun
    · obtain ⟨hopen, hlen, hd⟩ := hvoice.abandoned_cases hn
      exact ⟨hd, by rw [hturn.abandoned_of_disposed hr.fifo hopen hd]; exact hlen⟩

/-- The abandoned items are counted all at once: before, a thread owes the count and the counter is zero. -/
theorem Reachable.abandoned_counted (h : Reachable u s) :
    ((∃ th ∈ s.threads, ∃ n, .bump .abandoned n ∈ th.stack) → s.shared.counters.abandoned = 0) ∧
    ((∀ th ∈ s.threads, ∀ n, .bump .abandoned n ∉ th.stack) →
      s.shared.counters.abandoned = s.shared.abandoned.length) := by
  have heq : s.shared.abandoned.length = s.shared.counters.abandoned + total (Instr.owed .abandoned) s.stacks :=
    h.recorded_eq (c := .abandoned) (by decide)
  refine ⟨fun ⟨th, hth, n, hn⟩ => ?_, fun hnone => ?_⟩
  · have hst : th.stack ∈ s.stacks := List.mem_map_of_mem hth
    obtain ⟨-, hlen⟩ := h.abandoned_owed _ hst n hn
    have hone : n ≤ load (Instr.owed .abandoned) th.stack := weight_le_load (w := Instr.owed .abandoned) hn
    have hle := load_le_total (w := Instr.owed .abandoned) hst
    omega
  · have hzero : total (Instr.owed .abandoned) s.stacks = 0 := total_eq_zero fun th hth i hi => by
      cases i with
      | bump c n =>
        rw [Instr.owed, if_neg]
        rintro rfl
        exact hnone th hth n hi
      | _ => rfl
    omega

/-- Once the abandoned items are counted, no thread has any to count again. -/
theorem Reachable.abandoned_uncounted (h : Reachable u s) (hd : s.shared.buffer.value.disposed = true)
    (hnone : ∀ th ∈ s.threads, ∀ n, .bump .abandoned n ∉ th.stack) (he : Queue.execute u s cs = some s') :
    ∀ th ∈ s'.threads, ∀ n, .bump .abandoned n ∉ th.stack := by
  have hrun := h.execute_induction (P := fun s₁ => s₁.shared.buffer.value.disposed = true ∧
    ∀ st ∈ s₁.stacks, ∀ n, .bump .abandoned n ∉ st) (fun {s s' c} hr hs hP => ?_) he ⟨hd, fun st hst n hn => ?_⟩
  · exact fun th hth n hn => hrun.2 _ (List.mem_map_of_mem hth) n hn
  · have hturn := hr.turn hs
    refine ⟨(hturn.frozen hP.1 (hr.fifo.disposed hP.1).1).disposed, fun st hst n hn => ?_⟩
    rcases hturn.origin ⟨st, hst, hn⟩ with
      ⟨st, hst, hn⟩ | ⟨role, script, hrun⟩ | ⟨t, i, rest, e, -, -, hvoice, -, hn⟩
    · exact hP.2 st hst n hn
    · cases hrun
    · exact absurd (hP.1.symm.trans (hvoice.abandoned_cases hn).1) (by decide)
  · obtain ⟨th, hth, rfl⟩ := List.mem_map.1 hst
    exact hnone th hth n hn

/-- On a disposed queue, the refusals and what may still be added to them do not grow. -/
theorem Turn.rejected_le {sh sh' : Shared ι} {ss ss' : List (List (Instr ι))} {d : Option (Deed ι)}
    (h : Turn u sh ss d sh' ss') (hd : sh.buffer.value.disposed = true) :
    sh'.counters.rejected + total Instr.mayReject ss' ≤ sh.counters.rejected + total Instr.mayReject ss := by
  cases h with
  | @act t i rest e ht _ hvoice =>
    have hset := total_set (w := Instr.mayReject) (e.push ++ rest) ht
    have hle := hvoice.rejected_le hd
    rw [load_cons, load_append] at hset
    omega
  | @answer t role label rest script ht =>
    have hset := total_set (w := Instr.mayReject) (.run role script :: rest) ht
    simp only [load_cons, Instr.mayReject] at hset
    omega
  | spawn script => simp [total, Instr.mayReject]
  | same _ hhush => rw [hhush.counters]

theorem Reachable.rejected_le (h : Reachable u s) (hd : s.shared.buffer.value.disposed = true)
    (he : Queue.execute u s cs = some s') :
    s'.shared.counters.rejected + total Instr.mayReject s'.stacks ≤
      s.shared.counters.rejected + total Instr.mayReject s.stacks := by
  refine (h.execute_induction (P := fun s₁ => s₁.shared.buffer.value.disposed = true ∧
    s₁.shared.counters.rejected + total Instr.mayReject s₁.stacks ≤
      s.shared.counters.rejected + total Instr.mayReject s.stacks) (fun hr hs hP => ?_) he ⟨hd, Nat.le_refl _⟩).2
  have hturn := hr.turn hs
  exact ⟨(hturn.frozen hP.1 (hr.fifo.disposed hP.1).1).disposed, (hturn.rejected_le hP.1).trans hP.2⟩

end Runs

/-! ## Calls that are turned away -/

/-- The error with which a queue that is disposed, or whose lock is poisoned, denies a call. -/
def Shared.denied (s : Shared ι) : QueueError :=
  if s.buffer.poisoned then .synchronisation Guarded.Access.lock.poisonMessage else .disposed

/-- Whether an instruction takes the state lock only if it is not poisoned. -/
def Instr.isChecked : Instr ι → Bool
  | .enter _ | .completeAdding | .pendingCount | .pendingItems => true
  | _ => false

namespace Call

/-- Whether a call adds items, ends adding, or asks for what is pending. -/
def isChecked : Call ι → Bool
  | .add .. | .tryAdd .. | .completeAdding | .pendingCount | .pendingItems => true
  | _ => false

/-- Whether a call adds items, ends adding, disposes the queue, or asks for what is pending. -/
def isOperation : Call ι → Bool
  | .add .. | .tryAdd .. | .completeAdding | .dispose | .drop | .pendingCount | .pendingItems => true
  | _ => false

theorem isOperation_cases {c : Call ι} (h : c.isOperation = true) : c.isChecked = true ∨ c = .dispose ∨ c = .drop := by
  cases c <;> simp_all [isOperation, isChecked]

/-- The reply to an operation on a queue that denies calls with `e`; a producer's handle finds the queue gone or
not. -/
def denial (e : QueueError) (gone : Bool) : Call ι → Reply ι
  | .dispose | .drop => .unit
  | .add .producer .. | .tryAdd .producer .. => .error (if gone then .disposed else e)
  | _ => .error e

end Call

/-- Thread `t` is back from call `c`, with the reply of a queue that denied calls when this one started, in state
`sh`. -/
def Denied (sh : Shared ι) (t : ThreadId) (c : Call ι) (st : List (Instr ι)) (s : State ι) : Prop :=
  ∃ th gone, s.threads[t]? = some th ∧ th.asleep = none ∧ th.stack = st ∧ th.reply = c.denial sh.denied gone ∧
    (sh.strong = 0 → gone = true) ∧ (gone = true → s.shared.strong = 0)

/-- The queue of `sh'` is disposed or its lock is poisoned, it denies calls with the error of `sh`, and it is gone if it
was. -/
structure Barred (sh sh' : Shared ι) : Prop where
  shut : sh'.buffer.poisoned = true ∨ sh'.buffer.value.disposed = true
  denied : sh'.denied = sh.denied
  gone : sh.strong = 0 → sh'.strong = 0

theorem Barred.refl {sh : Shared ι} (h : sh.buffer.poisoned = true ∨ sh.buffer.value.disposed = true) : Barred sh sh :=
  ⟨h, rfl, id⟩

theorem Frozen.barred {sh sh' : Shared ι} (h : Frozen sh sh') : Barred sh sh' :=
  ⟨.inr h.disposed, by rw [Shared.denied, Shared.denied, h.poisoned], h.gone⟩

/-- A queue that denies calls goes on to deny them, with the same error. -/
theorem kept_barred {u : Setup ι} (sh : Shared ι) : Kept u (Barred sh) := by
  intro s s' c hr hs h
  have hgone := fun hsh => (hr.turn hs).gone (h.gone hsh)
  by_cases hp : s.shared.buffer.poisoned = true
  · have hp' := poisoned_of_step hs hp
    refine ⟨.inl hp', ?_, hgone⟩
    rw [← h.denied, Shared.denied, Shared.denied, hp, hp']
  · have hd := h.shut.resolve_left hp
    have hf := (hr.turn hs).frozen hd (hr.fifo.disposed hd).1
    exact ⟨.inr hf.disposed, hf.barred.denied.trans h.denied, hgone⟩

section Calls

variable {u : Setup ι} {sh : Shared ι} {t : ThreadId} {th : Thread ι} {rest : List (Instr ι)} {n : Nat}
  {Q : State ι → Prop}

/-- What takes the lock of a queue that denies calls is denied. -/
theorem perform_denied {s : Shared ι} {ended : ThreadId → Bool} {held : Reply ι} {i : Instr ι}
    (hi : i.isChecked = true) (hs : s.buffer.poisoned = true ∨ s.buffer.value.disposed = true) :
    perform u s ended t held i = some { shared := s, reply := some (.error s.denied) } := by
  cases hp : s.buffer.poisoned <;> cases i <;>
    simp_all [Instr.isChecked, perform, Guarded.checked, Shared.denied]

/-- A disposal that comes late does nothing. -/
theorem perform_dispose {s : Shared ι} {ended : ThreadId → Bool} {held : Reply ι}
    (hd : s.buffer.value.disposed = true) :
    perform u s ended t held .dispose = some { shared := s, reply := some .unit } := by
  simp [perform, Guarded.recovered, hd]

/-- A denied instruction is one silent step. -/
theorem bound_checked {i : Instr ι} (hi : i.isChecked = true) (hst : th.stack = i :: rest)
    (h : Bound u (Barred sh) t Q n { th with stack := rest, asleep := none, reply := .error sh.denied }) :
    Bound u (Barred sh) t Q (n + 1) th := by
  refine .step (kept_barred sh) hst ?_ fun s hs => ?_
  · cases i <;> simp_all [Thread.isPaused, Instr.isChecked]
  · refine ⟨_, perform_denied hi hs.shut, rfl, rfl, .refl _, fun s' hs' _ => h s' ?_⟩
    rw [← hs.denied]
    exact hs'

/-- Letting go of a strong reference is one silent step. -/
theorem bound_release (hst : th.stack = .release :: rest)
    (h : Bound u (Barred sh) t Q n { th with stack := rest, asleep := none }) :
    Bound u (Barred sh) t Q (n + 1) th := by
  refine .step (kept_barred sh) hst (by simp [Thread.isPaused, hst]) fun s hs => ?_
  exact ⟨_, rfl, rfl, rfl, silent_release _, fun s' hs' _ => h s' hs'⟩

/-- The owner that lets go of the queue takes one silent step. -/
theorem bound_disown (hst : th.stack = .disown :: rest)
    (h : Bound u (Frozen sh) t Q n { th with stack := rest, asleep := none }) :
    Bound u (Frozen sh) t Q (n + 1) th := by
  refine .step (kept_frozen sh) hst (by simp [Thread.isPaused, hst]) fun s hs => ?_
  refine ⟨_, rfl, rfl, rfl, ?_, fun s' hs' _ => h s' hs'⟩
  by_cases ho : s.shared.owned = true
  · obtain ⟨h₁, h₂, h₃, h₄, h₅, h₆⟩ := silent_release s.shared
    simp only [ho, ↓reduceIte]
    exact ⟨h₁, h₂, h₃, h₄, h₅, h₆⟩
  · simp only [ho]
    exact .refl _

/-- A disposal that comes late is one silent step. -/
theorem bound_dispose (hst : th.stack = .dispose :: rest)
    (h : Bound u (Frozen sh) t Q n { th with stack := rest, asleep := none, reply := .unit }) :
    Bound u (Frozen sh) t Q (n + 1) th := by
  refine .step (kept_frozen sh) hst (by simp [Thread.isPaused, hst]) fun s hs => ?_
  exact ⟨_, perform_dispose hs.disposed, rfl, rfl, .refl _, fun s' hs' _ => h s' hs'⟩

/-- A thread that is back from a call with its reply, whether the queue is gone or not. -/
theorem bound_back {c : Call ι} (hst : th.stack = rest) (hreply : ∀ gone, th.reply = c.denial sh.denied gone) :
    Bound u (Barred sh) t (Denied sh t c rest) n th := fun s hs =>
  .done ⟨th, decide (s.shared.strong = 0), hs.thread, hs.awake, hst, hreply _, fun h => by simp [hs.kept.gone h],
    of_decide_eq_true⟩

/-- A bid through a producer's handle. -/
theorem bound_upgrade {c : Call ι} {b : Bid ι} (hst : th.stack = .upgrade [.enter b] (.error .disposed) :: rest)
    (hdenial : ∀ gone, c.denial sh.denied gone = .error (if gone then .disposed else sh.denied)) :
    Bound u (Barred sh) t (Denied sh t c rest) 3 th := by
  refine .step (kept_barred sh) hst (by simp [Thread.isPaused, hst]) fun s hs => ?_
  by_cases hgone : s.shared.strong = 0
  · refine ⟨{ shared := s.shared, reply := some (.error .disposed) }, by simp [perform, hgone], rfl, rfl, .refl _,
      fun s' hs' heq => ?_⟩
    exact .done ⟨_, true, hs'.thread, rfl, rfl, (hdenial true).symm, fun _ => rfl, fun _ => by rw [heq, hgone]⟩
  · refine ⟨{ shared := { s.shared with strong := s.shared.strong + 1 }, push := [.enter b, .release] },
      by simp [perform, hgone], rfl, rfl, ⟨rfl, rfl, rfl, rfl, rfl, rfl⟩, fun s' hs' _ => ?_⟩
    have hback : Bound u (Barred sh) t (Denied sh t c rest) 0
        { th with stack := rest, asleep := none, reply := .error sh.denied } := fun s₁ hs₁ =>
      .done ⟨_, false, hs₁.thread, rfl, rfl, (hdenial false).symm, fun h => absurd (hs.gone h) hgone,
        fun h => absurd h Bool.false_ne_true⟩
    refine (?_ : Bound u (Barred sh) t (Denied sh t c rest) 2 _) s' hs'
    exact bound_checked rfl rfl (bound_release rfl hback)

/-- The instructions of a call that minds whether the lock is poisoned or the queue disposed. -/
theorem bound_checked_instrs {c : Call ι} (hc : c.isChecked = true) {now : Nat}
    (hst : th.stack = c.instrs now ++ rest) : Bound u (Barred sh) t (Denied sh t c rest) 3 th := by
  cases c with
  | add via x token =>
    cases via with
    | owner => exact bound_checked rfl hst (bound_back rfl fun _ => rfl)
    | producer => exact bound_upgrade hst fun _ => rfl
  | tryAdd via x patience =>
    cases via with
    | owner => exact bound_checked rfl hst (bound_back rfl fun _ => rfl)
    | producer => exact bound_upgrade hst fun _ => rfl
  | completeAdding => exact bound_checked rfl hst (bound_back rfl fun _ => rfl)
  | pendingCount => exact bound_checked rfl hst (bound_back rfl fun _ => rfl)
  | pendingItems => exact bound_checked rfl hst (bound_back rfl fun _ => rfl)
  | _ => cases hc

/-- The instructions of an operation on a disposed queue. -/
theorem bound_instrs {c : Call ι} (hc : c.isOperation = true) {now : Nat} (hst : th.stack = c.instrs now ++ rest) :
    Bound u (Frozen sh) t (Denied sh t c rest) 3 th := by
  have hback : ∀ {n : Nat} {th : Thread ι}, th.stack = rest → (∀ gone, th.reply = c.denial sh.denied gone) →
      Bound u (Frozen sh) t (Denied sh t c rest) n th :=
    fun hst hreply => (bound_back hst hreply).mono fun _ => Frozen.barred
  rcases Call.isOperation_cases hc with hchecked | rfl | rfl
  · exact (bound_checked_instrs hchecked hst).mono fun _ => Frozen.barred
  · exact bound_dispose hst (hback rfl fun _ => rfl)
  · exact bound_dispose hst (bound_disown rfl (hback rfl fun _ => rfl))

/-- Client code makes a call in one silent step. -/
theorem bound_call {I : Shared ι → Prop} {role : Role ι} {c : Call ι} {next : Reply ι → Script ι} (hI : Kept u I)
    (hst : th.stack = .run role (.call c next) :: rest)
    (h : ∀ now, Bound u I t Q n
      { th with stack := c.instrs now ++ .resume role next :: rest, asleep := none, reply := .unit }) :
    Bound u I t Q (n + 1) th := by
  refine .step hI hst (by simp [Thread.isPaused, hst]) fun s _ => ?_
  refine ⟨_, rfl, rfl, rfl, .refl _, fun s' hs' _ => h s.shared.now s' ?_⟩
  simpa [Thread.after, List.append_assoc] using hs'

/-- A call that starts on a queue that denies calls comes back denied, and nobody notices. -/
theorem bound_denied {role : Role ι} {c : Call ι} {next : Reply ι → Script ι} (hc : c.isChecked = true)
    (hst : th.stack = .run role (.call c next) :: rest) :
    Bound u (Barred sh) t (Denied sh t c (.resume role next :: rest)) 4 th :=
  bound_call (kept_barred sh) hst fun _ => bound_checked_instrs hc rfl

/-- An operation that starts on a disposed queue comes back denied, and nobody notices. -/
theorem bound_operation {role : Role ι} {c : Call ι} {next : Reply ι → Script ι} (hc : c.isOperation = true)
    (hst : th.stack = .run role (.call c next) :: rest) :
    Bound u (Frozen sh) t (Denied sh t c (.resume role next :: rest)) 4 th :=
  bound_call (kept_frozen sh) hst fun _ => bound_instrs hc rfl

end Calls

/-! ## Disposal is final -/

section Runs

variable {u : Setup ι} {s₀ s₁ s : State ι} {c : Choice ι} {cs : List (Choice ι)}

/-- The items that the workers have taken are recorded, and no others. -/
theorem Reachable.recorded_const (h : Reachable u s) {s' : State ι} (hd : s.shared.buffer.value.disposed = true)
    (he : Queue.execute u s cs = some s') :
    s'.shared.counters.enqueued + total (Instr.owed .enqueued) s'.stacks =
        s.shared.counters.enqueued + total (Instr.owed .enqueued) s.stacks ∧
      s'.shared.counters.processed + s'.shared.counters.failed + (s'.threads.take u.workers).countP Thread.hasItem =
        s.shared.counters.processed + s.shared.counters.failed + (s.threads.take u.workers).countP Thread.hasItem := by
  have hr := h.execute he
  have hf := h.frozen hd he
  have henq : s.shared.accepted.length = s.shared.counters.enqueued + total (Instr.owed .enqueued) s.stacks :=
    h.recorded_eq (c := .enqueued) (by decide)
  have henq' : s'.shared.accepted.length = s'.shared.counters.enqueued + total (Instr.owed .enqueued) s'.stacks :=
    hr.recorded_eq (c := .enqueued) (by decide)
  have hacc := h.accepted_eq
  have hacc' := hr.accepted_eq
  rw [(h.fifo.disposed hd).1, h.pending_eq_countP] at hacc
  rw [hf.items, hf.abandoned, hr.pending_eq_countP, hf.accepted] at hacc'
  rw [hf.accepted] at henq'
  exact ⟨by omega, by omega⟩

/-- From the step that disposes the queue on, in every state: the buffer is empty, nothing is accepted or taken any
more, and the flags stay; what was in the buffer is abandoned, and it is counted all at once; the counters grow no more
than by what was under way; another disposal does nothing; and every operation that starts comes back denied within
four steps of its thread, which no counter, no callback and no subscriber notices. -/
theorem disposal_final (h : Reachable u s₀) (hs : step u s₀ c = some s₁)
    (hopen : s₀.shared.buffer.value.disposed = false) (hd : s₁.shared.buffer.value.disposed = true)
    (he : execute u s₁ cs = some s) :
    (s.shared.buffer.value.disposed = true ∧
      s.shared.buffer.value.addingCompleted = s₀.shared.buffer.value.addingCompleted ∧
      s.shared.buffer.value.items = [] ∧ s.shared.accepted = s₀.shared.accepted ∧
      s.shared.taken = s₀.shared.taken) ∧
    (s.shared.abandoned = s₀.shared.buffer.value.items ∧
      ((∃ th ∈ s.threads, ∃ n, .bump .abandoned n ∈ th.stack) → s.shared.counters.abandoned = 0) ∧
      ((∀ th ∈ s.threads, ∀ n, .bump .abandoned n ∉ th.stack) → ∀ cs' s', execute u s cs' = some s' →
        s'.shared.counters.abandoned = s₀.shared.buffer.value.items.length)) ∧
    (s.shared.counters.enqueued + total (Instr.owed .enqueued) s.stacks =
        s₁.shared.counters.enqueued + total (Instr.owed .enqueued) s₁.stacks ∧
      s.shared.counters.processed + s.shared.counters.failed + (s.threads.take u.workers).countP Thread.hasItem =
        s₁.shared.counters.processed + s₁.shared.counters.failed +
          (s₁.threads.take u.workers).countP Thread.hasItem ∧
      s.shared.counters.rejected + total Instr.mayReject s.stacks ≤
        s₁.shared.counters.rejected + total Instr.mayReject s₁.stacks) ∧
    (∀ t th rest sleeper s', s.threads[t]? = some th → th.asleep = none → th.stack = .dispose :: rest →
      step u s (.run t sleeper) = some s' → s'.shared = s.shared) ∧
    ∀ t th role call next rest, call.isOperation = true → s.threads[t]? = some th → th.asleep = none →
      th.stack = .run role (.call call next) :: rest →
      Returns u t (Denied s.shared t call (.resume role next :: rest)) 4 s := by
  have hr₁ := h.step hs
  have hr := hr₁.execute he
  have hf := hr₁.frozen hd he
  have hturn := h.turn hs
  obtain ⟨t₀, hclose⟩ := hturn.close_of_disposed hopen hd
  have haband : s₁.shared.abandoned = s₀.shared.buffer.value.items :=
    hturn.abandoned_of_disposed h.fifo hopen hd
  obtain ⟨henq, hproc⟩ := hr₁.recorded_const hd he
  refine ⟨⟨hf.disposed, ?_, hf.items, ?_, ?_⟩, ⟨hf.abandoned.trans haband, hr.abandoned_counted.1, ?_⟩,
    ⟨henq, hproc, hr₁.rejected_le hd he⟩, ?_, ?_⟩
  · rw [hf.addingCompleted, hclose]
    rfl
  · rw [hf.accepted, hclose]
    simp [Note.accepted?]
  · rw [hf.taken, hclose]
    simp [Note.taken?]
  · intro hnone cs' s' he'
    have hcount := (hr.execute he').abandoned_counted.2 (hr.abandoned_uncounted hf.disposed hnone he')
    rw [hcount, (hr.frozen hf.disposed he').abandoned, hf.abandoned, haband]
  · intro t th rest sleeper s' ht hawake hst hs'
    rw [eq_of_step_run ht hawake hst (perform_dispose hf.disposed) rfl hs']
  · intro t th role call next rest hcall ht hawake hst
    exact bound_operation hcall hst s ⟨hr, .refl hf.disposed hf.items, ht, hawake⟩

/-- The worker is at the first of two items; a client is about to dispose the queue. -/
def sampleClosing : List (Choice Nat) :=
  .spawn (.call (.add .owner 7 none) fun _ => .just (.add .owner 8 none)) :: runs 1 13 ++ runs 0 4 ++
    .spawn (.just .dispose) :: runs 2 1

/-- Another client tries to add an item through a producer's handle, after the disposal. -/
theorem sample_disposal_final :
    ∃ s₁ s, step sample (after sample sampleClosing) (.run 2 none) = some s₁ ∧
      execute sample s₁ [.spawn (.just (.tryAdd .producer 9 none))] = some s ∧
      s.shared.buffer.value.items = [] ∧ s.shared.abandoned = [8] ∧ s.shared.counters.abandoned = 0 ∧
      Returns sample 3 (Denied s.shared 3 (.tryAdd .producer 9 none)
        [.resume .client fun r => .ret (.returned r)]) 4 s := by
  have hs : step sample (after sample sampleClosing) (.run 2 none) =
      some (after sample (sampleClosing ++ [.run 2 none])) := rfl
  have he : execute sample (after sample (sampleClosing ++ [.run 2 none]))
      [.spawn (.just (.tryAdd .producer 9 none))] =
      some ((after sample (sampleClosing ++ [.run 2 none])).spawn (.just (.tryAdd .producer 9 none))) := rfl
  obtain ⟨hkept, habandoned, -, -, hcalls⟩ :=
    disposal_final (reachable_after sample sampleClosing) hs (by decide) (by decide) he
  have howed : ∃ th ∈ ((after sample (sampleClosing ++ [.run 2 none])).spawn
      (.just (.tryAdd .producer 9 none))).threads, ∃ n, .bump .abandoned n ∈ th.stack :=
    ⟨_, List.mem_of_getElem? (i := 2) rfl, 1, List.mem_of_getElem? (i := 2) rfl⟩
  exact ⟨_, _, hs, he, hkept.2.2.1, habandoned.1, habandoned.2.1 howed, hcalls 3 _ _ _ _ _ rfl rfl rfl rfl⟩

end Runs

end Conveyor.Queue
