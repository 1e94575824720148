import Conveyor.Proofs.Queue.Execution
import Conveyor.Proofs.Queue.Round
import Mathlib.Data.List.Perm.Subperm

/-!
# The buffer is a bounded FIFO

The accepted items, in order of acceptance, are the taken items in the order of the takes, then what a disposal
abandoned, then what is in the buffer (`Fifo.order`). No act breaks this (`Act.fifo`), so it holds in every reachable
state (`Reachable.fifo`); with the rounds of the workers it says which items the handler gets, and in which order
(`fifo_order`).
-/

namespace Conveyor.Queue

variable {ι : Type}

/-! ## The invariant -/

/-- Nothing is lost, doubled or out of order. -/
structure Fifo (u : Setup ι) (sh : Shared ι) : Prop where
  order : sh.accepted = sh.taken ++ sh.abandoned ++ sh.buffer.value.items
  undisposed : sh.buffer.value.disposed = false → sh.disposals = []
  disposed : sh.buffer.value.disposed = true →
    sh.buffer.value.items = [] ∧ ∃ t xs drained, sh.disposals = [(t, xs, drained)]
  bounded : ∀ n, u.capacity = some n → sh.buffer.value.items.length ≤ n

theorem fifo_start (u : Setup ι) : Fifo u u.start.shared :=
  ⟨rfl, fun _ => rfl, fun h => absurd h Bool.false_ne_true, fun _ _ => Nat.zero_le _⟩

/-- What neither moves an item nor disposes the queue keeps the order. -/
theorem Fifo.congr {u : Setup ι} {sh sh' : Shared ι} (h : Fifo u sh) (hacc : sh'.acceptances = sh.acceptances)
    (htake : sh'.takes = sh.takes) (hdisp : sh'.disposals = sh.disposals)
    (hitems : sh'.buffer.value.items = sh.buffer.value.items)
    (hflag : sh'.buffer.value.disposed = sh.buffer.value.disposed) : Fifo u sh' where
  order := by
    have := h.order
    simp only [Shared.accepted, Shared.taken, Shared.abandoned] at this ⊢
    rw [hacc, htake, hdisp, hitems, this]
  undisposed := by rw [hflag, hdisp]; exact h.undisposed
  disposed := by rw [hflag, hdisp, hitems]; exact h.disposed
  bounded := by rw [hitems]; exact h.bounded

section Acts

variable {u : Setup ι} {sh : Shared ι} {t : ThreadId}

theorem Shared.Same.fifo {sh' : Shared ι} (hsame : sh.Same sh') (h : Fifo u sh) : Fifo u sh' :=
  h.congr hsame.acceptances hsame.takes hsame.disposals (by rw [hsame.buffer]) (by rw [hsame.buffer])

/-- An accepted item goes to the end of the buffer, where there was room for it. -/
theorem Fifo.accept (h : Fifo u sh) (hopen : sh.buffer.value.isClosed = false)
    (hroom : sh.buffer.value.hasRoom u.capacity = true) (x : ι) :
    Fifo u ((sh.setBuffer (sh.buffer.value.push x)).note t (.accepted x)) := by
  have hd : sh.buffer.value.disposed = false := by
    simp only [Buffer.isClosed, Bool.or_eq_false_iff] at hopen
    exact hopen.1
  refine ⟨?_, fun _ => ?_, fun h' => ?_, fun n hn => ?_⟩
  · have := h.order
    simp [Note.accepted?, Note.taken?, Note.abandoned?, this]
  · simpa [Note.abandoned?] using h.undisposed hd
  · simp [hd] at h'
  · rw [hn] at hroom
    have : sh.buffer.value.items.length < n := by simpa [Buffer.hasRoom] using hroom
    simpa using Nat.succ_le_of_lt this

/-- A taken item comes from the front of the buffer. -/
theorem Fifo.take (h : Fifo u sh) (hopen : sh.buffer.value.disposed = false) {x : ι} {rest : List ι}
    (hitems : sh.buffer.value.items = x :: rest) :
    Fifo u ((sh.setBuffer (sh.buffer.value.pop rest)).note t (.taken x)) := by
  have hnone := h.undisposed hopen
  refine ⟨?_, fun _ => ?_, fun h' => ?_, fun n hn => ?_⟩
  · have := h.order
    rw [hitems, Shared.abandoned, hnone] at this
    simp [Note.accepted?, Note.taken?, Note.abandoned?, this, Shared.abandoned, hnone]
  · simpa [Note.abandoned?] using hnone
  · simp [hopen] at h'
  · have := h.bounded n hn
    rw [hitems] at this
    simp only [Shared.note_buffer, Shared.setBuffer_value, Buffer.pop_items]
    exact (Nat.le_succ _).trans this

/-- A disposal abandons the whole buffer, and there is only one. -/
theorem Fifo.close (h : Fifo u sh) (hopen : sh.buffer.value.disposed = false) (drained : Bool) :
    Fifo u ((sh.setBuffer sh.buffer.value.close).note t (.abandoned sh.buffer.value.items drained)) := by
  have hnone := h.undisposed hopen
  refine ⟨?_, fun h' => ?_, fun _ => ⟨rfl, t, sh.buffer.value.items, drained, ?_⟩, fun _ _ => Nat.zero_le _⟩
  · have := h.order
    simp [Note.accepted?, Note.taken?, Note.abandoned?, this]
  · simp at h'
  · simp [Note.abandoned?, hnone]

/-- Every act keeps the order. -/
theorem Act.fifo {i : Instr ι} {e : Effect ι} (hact : Act u sh t i e) (h : Fifo u sh) : Fifo u e.shared := by
  cases hact with
  | accept _ hopen hroom => exact h.accept hopen hroom _
  | take _ hopen hitems => exact h.take hopen hitems
  | close hopen => exact h.close hopen _
  | refuse _ _ hsame => exact hsame.fifo h
  | other _ _ hsame => exact hsame.fifo h
  | handled =>
    exact h.congr (by simp [Note.accepted?]) (by simp [Note.taken?]) (by simp [Note.abandoned?]) (by simp) (by simp)
  | start => exact h.congr (by simp [Note.accepted?]) (by simp [Note.taken?]) (by simp [Note.abandoned?]) rfl rfl
  | resolve => exact h.congr (by simp [Note.accepted?]) (by simp [Note.taken?]) (by simp [Note.abandoned?]) rfl rfl
  | _ => exact h.congr rfl rfl rfl rfl rfl

end Acts

theorem Reachable.fifo {u : Setup ι} {s : State ι} (h : Reachable u s) : Fifo u s.shared := by
  refine h.shift_induction (I := fun sh _ => Fifo u sh) (fifo_start u) ?_
  intro s sh ss _ hsh ih
  cases hsh with
  | act _ hact => exact hact.fifo ih
  | same hsame => exact hsame.fifo ih
  | _ => exact ih

/-! ## What the handler gets -/

theorem mem_onThread {β : Type} {t : ThreadId} {x : β} {l : List (ThreadId × β)} :
    x ∈ onThread t l ↔ (t, x) ∈ l := by
  simp [onThread]

/-- How often an event happened on a thread is how often it is in the sequence. -/
theorem count_onThread {β : Type} [DecidableEq β] (t : ThreadId) (x : β) (l : List (ThreadId × β)) :
    (onThread t l).count x = l.count (t, x) := by
  induction l with
  | nil => rfl
  | cons q l ih =>
    obtain ⟨t', y⟩ := q
    rw [List.count_cons, ← ih]
    by_cases ht : t' = t
    · subst ht
      simp [onThread, List.count_cons]
    · simp [onThread, ht]

/-- If a sequence is on each thread a first part of another, none of its events is there more often. -/
theorem subperm_of_onThread {β : Type} {l l' : List (ThreadId × β)} (h : ∀ t, onThread t l <+: onThread t l') :
    l.Subperm l' := by
  classical
  refine List.subperm_ext_iff.2 fun p _ => ?_
  rw [← count_onThread p.1 p.2, ← count_onThread p.1 p.2]
  exact (h p.1).sublist.count_le _

/-- Sequences that agree on each thread have the same events. -/
theorem perm_of_onThread {β : Type} {l l' : List (ThreadId × β)} (h : ∀ t, onThread t l = onThread t l') :
    l.Perm l' := by
  classical
  refine List.perm_iff_count.2 fun p => ?_
  rw [← count_onThread p.1 p.2, ← count_onThread p.1 p.2, h]

section Reachable

variable {u : Setup ι} {s : State ι}

/-- On each thread the handler gets the items that were taken there, in the same order. -/
theorem Reachable.starts_prefix (h : Reachable u s) (t : ThreadId) :
    onThread t s.shared.starts <+: onThread t s.shared.takes :=
  ⟨_, (h.inRound t).takes.symm⟩

theorem Shift.takes_grow {sh sh' : Shared ι} {ss ss' : List (List (Instr ι))} (h : Shift u sh ss sh' ss') :
    sh.takes <+: sh'.takes := by
  cases h with
  | act _ hact =>
    obtain ⟨xs, ys, zs, p, q, hdeals⟩ := hact.deals
    rw [hdeals.takes]
    exact List.prefix_append ..
  | same hsame => exact hsame.takes ▸ List.prefix_rfl
  | _ => exact List.prefix_rfl

/-- What is taken in the course of a run comes after what was taken before. -/
theorem Reachable.takes_grow {s' : State ι} {cs : List (Choice ι)} (h : Reachable u s)
    (he : Queue.execute u s cs = some s') : s.shared.takes <+: s'.shared.takes :=
  h.execute_induction (P := fun s₁ => s.shared.takes <+: s₁.shared.takes)
    (fun hr hs hP => hP.trans (hr.shift hs).takes_grow) he List.prefix_rfl

/-- The handler gets no item more often than it was taken. -/
theorem Reachable.starts_subperm (h : Reachable u s) : s.shared.starts.Subperm s.shared.takes :=
  subperm_of_onThread h.starts_prefix

/-- With one worker, everything is taken and handled on its thread. -/
theorem Reachable.one_worker (h : Reachable u s) (hw : u.workers = 1) :
    s.shared.started <+: s.shared.taken := by
  have htakes : ∀ p ∈ s.shared.takes, p.1 = 0 := by
    rintro ⟨t, x⟩ hp
    by_contra ht
    have hnil := (h.inRound t).client (by rw [hw]; exact Nat.one_le_iff_ne_zero.2 ht)
    rw [← mem_onThread, hnil] at hp
    cases hp
  have hstarts : ∀ p ∈ s.shared.starts, p.1 = 0 := fun p hp => htakes p (h.starts_subperm.subset hp)
  have := h.starts_prefix 0
  rwa [onThread_eq_map hstarts, onThread_eq_map htakes] at this

/-- The taken items are the first of the accepted ones. -/
theorem Reachable.taken_prefix (h : Reachable u s) : s.shared.taken <+: s.shared.accepted :=
  ⟨_, (List.append_assoc ..).symm.trans h.fifo.order.symm⟩

end Reachable

/-! ## Looking at the buffer -/

section Looking

variable {u : Setup ι} {s : State ι} {t : ThreadId} {th : Thread ι} {rest : List (Instr ι)}

/-- Thread `t` is about to make a call whose reply is `r`, whatever else goes on, and which leaves the buffer alone. -/
def Answers (u : Setup ι) (s : State ι) (t : ThreadId) (r : Reply ι) : Prop :=
  ∃ s', step u s (.run t none) = some s' ∧ s'.reply? t = some r ∧ s'.shared.buffer.value = s.shared.buffer.value

theorem answers_of_perform {i : Instr ι} {e : Effect ι} {r : Reply ι} (ht : s.threads[t]? = some th)
    (hawake : th.asleep = none) (hst : th.stack = i :: rest)
    (he : perform u s.shared s.hasEnded t th.reply i = some e) (hw : e.wake = .nobody) (hr : e.reply = some r)
    (hb : e.shared.buffer.value = s.shared.buffer.value) : Answers u s t r :=
  ⟨_, step_run ht hawake hst he hw, by rw [reply?_set ht, Thread.after, hr]; rfl, hb⟩

/-- The number of pending items is the length of the buffer, and the only other reply is an error. -/
theorem pendingCount_answers (ht : s.threads[t]? = some th) (hawake : th.asleep = none)
    (hst : th.stack = .pendingCount :: rest) :
    ∃ r, Answers u s t r ∧ (r = .count s.shared.buffer.value.items.length ∨ ∃ e, r = .error e) ∧
      (s.shared.buffer.poisoned = false → s.shared.buffer.value.disposed = false →
        r = .count s.shared.buffer.value.items.length) := by
  by_cases hp : s.shared.buffer.poisoned = true
  · refine ⟨_, answers_of_perform ht hawake hst (by simp only [perform, Guarded.checked, if_pos hp]; rfl) rfl rfl rfl,
      .inr ⟨_, rfl⟩, fun h => ?_⟩
    simp [hp] at h
  by_cases hd : s.shared.buffer.value.disposed = true
  · refine ⟨_, answers_of_perform ht hawake hst
      (by simp only [perform, Guarded.checked, if_neg hp, if_pos hd]; rfl) rfl rfl rfl, .inr ⟨_, rfl⟩, fun _ h => ?_⟩
    simp [hd] at h
  · exact ⟨_, answers_of_perform ht hawake hst
      (by simp only [perform, Guarded.checked, if_neg hp, if_neg hd]; rfl) rfl rfl rfl, .inl rfl, fun _ _ => rfl⟩

/-- The pending items are the buffer, in order; the other replies are an error, and a panic if an item cannot be
cloned. -/
theorem pendingItems_answers (ht : s.threads[t]? = some th) (hawake : th.asleep = none)
    (hst : th.stack = .pendingItems :: rest) :
    ∃ r, Answers u s t r ∧
      (r = .items s.shared.buffer.value.items ∨ (∃ e, r = .error e) ∨ ∃ p, r = .panicked p) ∧
      (s.shared.buffer.poisoned = false → s.shared.buffer.value.disposed = false →
        (∀ x ∈ s.shared.buffer.value.items, u.code.cloneFault x = none) →
          r = .items s.shared.buffer.value.items) := by
  by_cases hp : s.shared.buffer.poisoned = true
  · refine ⟨_, answers_of_perform ht hawake hst (by simp only [perform, Guarded.checked, if_pos hp]; rfl) rfl rfl rfl,
      .inr (.inl ⟨_, rfl⟩), fun h => ?_⟩
    simp [hp] at h
  by_cases hd : s.shared.buffer.value.disposed = true
  · refine ⟨_, answers_of_perform ht hawake hst
      (by simp only [perform, Guarded.checked, if_neg hp, if_pos hd]; rfl) rfl rfl rfl, .inr (.inl ⟨_, rfl⟩),
      fun _ h => ?_⟩
    simp [hd] at h
  cases hf : firstFault u s.shared.buffer.value.items with
  | none =>
    exact ⟨_, answers_of_perform ht hawake hst
      (by simp only [perform, Guarded.checked, if_neg hp, if_neg hd, hf]; rfl) rfl rfl rfl, .inl rfl,
      fun _ _ _ => rfl⟩
  | some m =>
    refine ⟨_, answers_of_perform ht hawake hst
      (by simp only [perform, Guarded.checked, if_neg hp, if_neg hd, hf]; rfl) rfl rfl rfl, .inr (.inr ⟨_, rfl⟩),
      fun _ _ hclone => ?_⟩
    rw [firstFault, List.findSome?_eq_none_iff.2 hclone] at hf
    cases hf

end Looking

/-! ## The order of the items -/

/-- In every reachable state, the accepted items are the taken items and then the buffer or, once the queue is
disposed, what was abandoned then; the buffer keeps to its capacity; a look at the buffer shows exactly what is in it;
no item is handed to the handler more often than it was taken. So the items of one producer are taken in its order, and
with one worker the handler gets the items in the order of their acceptance. -/
theorem fifo_order {u : Setup ι} {s : State ι} (h : Reachable u s) :
    (s.shared.buffer.value.disposed = false → s.shared.accepted = s.shared.taken ++ s.shared.buffer.value.items) ∧
    (s.shared.buffer.value.disposed = true → s.shared.buffer.value.items = [] ∧
      ∃ t xs drained, s.shared.disposals = [(t, xs, drained)] ∧ s.shared.accepted = s.shared.taken ++ xs) ∧
    (∀ n, u.capacity = some n → s.shared.buffer.value.items.length ≤ n) ∧
    (∀ t th rest, s.threads[t]? = some th → th.asleep = none → th.stack = .pendingItems :: rest →
      ∃ r, Answers u s t r ∧
        (r = .items s.shared.buffer.value.items ∨ (∃ e, r = .error e) ∨ ∃ p, r = .panicked p) ∧
        (s.shared.buffer.poisoned = false → s.shared.buffer.value.disposed = false →
          (∀ x ∈ s.shared.buffer.value.items, u.code.cloneFault x = none) →
            r = .items s.shared.buffer.value.items)) ∧
    (∀ t th rest, s.threads[t]? = some th → th.asleep = none → th.stack = .pendingCount :: rest →
      ∃ r, Answers u s t r ∧ (r = .count s.shared.buffer.value.items.length ∨ ∃ e, r = .error e) ∧
        (s.shared.buffer.poisoned = false → s.shared.buffer.value.disposed = false →
          r = .count s.shared.buffer.value.items.length)) ∧
    (∀ t, onThread t s.shared.starts <+: onThread t s.shared.takes) ∧ s.shared.started.Subperm s.shared.taken ∧
    (∀ p i j x y, i < j → s.shared.acceptances[i]? = some (p, x) → s.shared.acceptances[j]? = some (p, y) →
      j < s.shared.taken.length → s.shared.taken[i]? = some x ∧ s.shared.taken[j]? = some y) ∧
    (u.workers = 1 → s.shared.started <+: s.shared.accepted) := by
  have hf := h.fifo
  refine ⟨fun hd => ?_, fun hd => ?_, hf.bounded, fun t th rest => pendingItems_answers,
    fun t th rest => pendingCount_answers, h.starts_prefix, ?_, fun p i j x y hij hx hy hj => ?_,
    fun hw => (h.one_worker hw).trans h.taken_prefix⟩
  · have := hf.order
    rwa [Shared.abandoned, hf.undisposed hd, List.flatMap_nil, List.append_nil] at this
  · obtain ⟨hitems, t, xs, drained, hxs⟩ := hf.disposed hd
    refine ⟨hitems, t, xs, drained, hxs, ?_⟩
    have := hf.order
    rwa [Shared.abandoned, hxs, hitems, List.append_nil, List.flatMap_singleton] at this
  · obtain ⟨l, hperm, hsub⟩ := h.starts_subperm
    exact ⟨l.map Prod.snd, hperm.map _, hsub.map _⟩
  · have hat : ∀ {k z}, k < s.shared.taken.length → s.shared.acceptances[k]? = some (p, z) →
        s.shared.taken[k]? = some z := by
      intro k z hk hz
      rw [List.getElem?_eq_getElem hk, h.taken_prefix.getElem hk, ← List.getElem?_eq_getElem, Shared.accepted,
        List.getElem?_map, hz]
      rfl
    exact ⟨hat (hij.trans hj) hx, hat hj hy⟩

/-- A client adds two items and asks for the pending items while the worker is at the first. -/
def sampleLook : List (Choice Nat) :=
  .spawn (.call (.add .owner 7 none) fun _ => .call (.add .owner 8 none) fun _ => .just .pendingItems) ::
    runs 1 13 ++ runs 0 4

theorem sample_fifo_order :
    (after sample sampleLook).shared.taken = [7] ∧ (after sample sampleLook).shared.accepted = [7, 8] ∧
      (after sample sampleLook).shared.accepted =
        (after sample sampleLook).shared.taken ++ (after sample sampleLook).shared.buffer.value.items ∧
      (after sample sampleLook).shared.started <+: (after sample sampleLook).shared.accepted ∧
      Answers sample (after sample sampleLook) 1 (.items [8]) := by
  obtain ⟨hopen, -, -, hitems, -, -, -, -, hone⟩ := fifo_order (reachable_after sample sampleLook)
  refine ⟨rfl, rfl, hopen rfl, hone rfl, ?_⟩
  obtain ⟨r, hr, -, hall⟩ := hitems 1 _ _ rfl rfl rfl
  have heq : r = .items [8] := hall rfl rfl fun _ _ => rfl
  exact heq ▸ hr

end Conveyor.Queue
