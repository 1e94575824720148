import Conveyor.Proofs.Queue.Quiescence
import Conveyor.Proofs.Queue.Return
import Conveyor.Queue.Locks

/-!
# Who is under a lock

A run with its locks is a run of the queue, if one looks at nothing but what happens to the queue (`execute_choices`);
so what holds of all runs holds of it. Besides, whoever is under a lock is under no other and is awake, and until it is
done, what it took the lock for is what it does next (`Orderly`). Nothing that is done under a lock waits: whoever is
under one can go on (`Orderly.holder_moves`).
-/

namespace Conveyor.Queue

variable {ι : Type}

namespace Move

/-- Whether a move is one of thread `t`. -/
def isOf (t : ThreadId) : Move ι → Bool
  | .lock t' => t' = t
  | .unlock t' _ => t' = t
  | .choose c => c.isOf t

def choice? : Move ι → Option (Choice ι)
  | .choose c => some c
  | _ => none

end Move

/-- What happens to the queue in the course of moves. -/
def choices (ms : List (Move ι)) : List (Choice ι) := ms.filterMap Move.choice?

theorem Lock.mem_all (l : Lock) : l ∈ Lock.all := by cases l <;> decide

namespace Locked

variable {u : Setup ι} {s s' : Locked ι} {t t' : ThreadId} {l l' : Lock} {i : Instr ι} {k : Holder} {q : State ι}
  {m : Move ι} {c : Choice ι} {ms : List (Move ι)}

/-! ## Reading a state -/

theorem next?_eq_some : s.next? t = some i ↔
    ∃ th rest, s.queue.threads[t]? = some th ∧ th.asleep = none ∧ th.stack = i :: rest := by
  unfold next?
  cases ht : s.queue.threads[t]? with
  | none => simp
  | some th => cases hsleep : th.asleep <;> simp [hsleep, List.head?_eq_some_iff]

theorem isUnder_iff : s.isUnder t l = true ↔ ∃ k, s.held l = some k ∧ k.thread = t := by
  unfold isUnder
  cases s.held l <;> simp

theorem isFree_iff : s.isFree t = true ↔ ∀ l k, s.held l = some k → k.thread ≠ t := by
  simp only [isFree, List.all_eq_true, Bool.not_eq_true']
  constructor
  · intro h l k hk hkt
    have hunder := h l l.mem_all
    rw [isUnder_iff.2 ⟨k, hk, hkt⟩] at hunder
    cases hunder
  · intro h l _
    rw [← Bool.not_eq_true, isUnder_iff]
    rintro ⟨k, hk, hkt⟩
    exact h l k hk hkt

theorem not_isFree : s.isFree t = false ↔ ∃ l k, s.held l = some k ∧ k.thread = t := by
  rw [← Bool.not_eq_true, isFree_iff]
  simp

@[simp] theorem put_queue (h : Option Holder) : (s.put l h).queue = s.queue := rfl

@[simp] theorem put_held (h : Option Holder) : (s.put l h).held l' = if l' = l then h else s.held l' := rfl

@[simp] theorem after_queue : (s.after t i q).queue = q := by
  unfold after
  split <;> rfl

theorem after_held (hl : i.lock? = some l) :
    (s.after t i q).held l' = if l' = l then (if q.isAsleep t then none else some ⟨t, true⟩) else s.held l' := by
  simp only [after, hl]
  rfl

/-! ## What a move does -/

theorem lock_of_step (h : s.step u (.lock t) = some s') :
    ∃ i l, s.next? t = some i ∧ i.lock? = some l ∧ s.isFree t = true ∧ s.held l = none ∧
      s' = s.put l (some ⟨t, false⟩) := by
  simp only [step] at h
  split at h
  · rename_i l hl
    obtain ⟨i, hi, hil⟩ := Option.bind_eq_some_iff.1 hl
    split at h
    · rename_i hopen
      rw [Bool.and_eq_true, Option.isNone_iff_eq_none] at hopen
      exact ⟨i, l, hi, hil, hopen.1, hopen.2, (Option.some.inj h).symm⟩
    · cases h
  · cases h

theorem unlock_of_step (h : s.step u (.unlock t l) = some s') :
    s.held l = some ⟨t, true⟩ ∧ s' = s.put l none := by
  simp only [step] at h
  split at h
  · rename_i hopen
    rw [Bool.and_eq_true, decide_eq_true_eq] at hopen
    exact ⟨hopen.1, (Option.some.inj h).symm⟩
  · cases h

theorem run_of_choose {sleeper : Option ThreadId} (h : s.step u (.choose (.run t sleeper)) = some s') :
    ∃ i q, s.next? t = some i ∧ s.permits t i = true ∧ Queue.step u s.queue (.run t sleeper) = some q ∧
      s' = s.after t i q := by
  simp only [step] at h
  split at h
  · rename_i i hi
    split at h
    · rename_i hpermits
      obtain ⟨q, hq, rfl⟩ := Option.map_eq_some_iff.1 h
      exact ⟨i, q, hi, hpermits, hq, rfl⟩
    · cases h
  · cases h

theorem outside_of_choose (hc : ∀ t sleeper, c ≠ .run t sleeper) (h : s.step u (.choose c) = some s') :
    ∃ q, Queue.step u s.queue c = some q ∧ s' = { s with queue := q } := by
  cases c with
  | run t sleeper => exact absurd rfl (hc t sleeper)
  | _ =>
    simp only [step] at h
    obtain ⟨q, hq, rfl⟩ := Option.map_eq_some_iff.1 h
    exact ⟨q, hq, rfl⟩

theorem choose_of_step (h : s.step u (.choose c) = some s') : Queue.step u s.queue c = some s'.queue := by
  cases c with
  | run t sleeper =>
    obtain ⟨i, q, -, -, hq, rfl⟩ := run_of_choose h
    rw [hq, after_queue]
  | _ =>
    obtain ⟨q, hq, rfl⟩ := outside_of_choose (by simp) h
    exact hq

/-! ## Runs -/

/-- The state after a sequence of moves; `none` if one of them is not open. -/
def execute (u : Setup ι) (s : Locked ι) : List (Move ι) → Option (Locked ι)
  | [] => some s
  | m :: ms => (s.step u m).bind (execute u · ms)

/-- A run with its locks is a run of the queue. -/
theorem execute_choices (h : s.execute u ms = some s') :
    Queue.execute u s.queue (choices ms) = some s'.queue := by
  induction ms generalizing s with
  | nil => exact congrArg some (congrArg Locked.queue (Option.some.inj h))
  | cons m ms ih =>
    obtain ⟨s₁, hs₁, he⟩ := Option.bind_eq_some_iff.1 h
    have hrun := ih he
    cases m with
    | lock t =>
      obtain ⟨i, l, -, -, -, -, rfl⟩ := lock_of_step hs₁
      exact hrun
    | unlock t l =>
      obtain ⟨-, rfl⟩ := unlock_of_step hs₁
      exact hrun
    | choose c =>
      show (Queue.step u s.queue c).bind (Queue.execute u · (choices ms)) = some s'.queue
      rw [choose_of_step hs₁, Option.bind_some]
      exact hrun

/-! ## The order of sections -/

/-- Nobody is under two locks or asleep under one, and until a thread is done with what it took a lock for, that is what
it does next. -/
structure Orderly (s : Locked ι) : Prop where
  single : ∀ l l' k k', s.held l = some k → s.held l' = some k' → k.thread = k'.thread → l = l'
  awake : ∀ l k, s.held l = some k → ∃ th, s.queue.threads[k.thread]? = some th ∧ th.asleep = none
  ahead : ∀ l t, s.held l = some ⟨t, false⟩ → ∃ i, s.next? t = some i ∧ i.lock? = some l

theorem orderly_start (u : Setup ι) : (start u).Orderly :=
  ⟨fun _ _ _ _ h => (nomatch h), fun _ _ h => (nomatch h), fun _ _ h => (nomatch h)⟩

/-- A thread whose next instruction wants no lock is done with what it took one for. -/
theorem Orderly.not_ahead (h : s.Orderly) (hi : s.next? t = some i) (hl : i.lock? = none) :
    s.held l ≠ some ⟨t, false⟩ := by
  intro hk
  obtain ⟨j, hj, hjl⟩ := h.ahead l t hk
  cases hi.symm.trans hj
  rw [hl] at hjl
  cases hjl

/-- Taking a lock and letting go of it keep the order. -/
theorem Orderly.lock (h : s.Orderly) (hi : s.next? t = some i) (hl : i.lock? = some l) (hfree : s.isFree t = true) :
    (s.put l (some ⟨t, false⟩)).Orderly := by
  have hno := isFree_iff.1 hfree
  constructor
  case single =>
    intro l₁ l₂ k₁ k₂ h₁ h₂ heq
    rw [put_held] at h₁ h₂
    split at h₁ <;> split at h₂
    · simp_all
    · cases h₁
      exact absurd heq.symm (hno _ _ h₂)
    · cases h₂
      exact absurd heq (hno _ _ h₁)
    · exact h.single _ _ _ _ h₁ h₂ heq
  case awake =>
    intro l₁ k₁ h₁
    rw [put_held] at h₁
    split at h₁
    · cases h₁
      obtain ⟨th, rest, hth, hawake, -⟩ := next?_eq_some.1 hi
      exact ⟨th, hth, hawake⟩
    · exact h.awake _ _ h₁
  case ahead =>
    intro l₁ t₁ h₁
    rw [put_held] at h₁
    split at h₁
    · rename_i heq
      cases h₁
      exact ⟨i, hi, heq ▸ hl⟩
    · exact h.ahead _ _ h₁

theorem Orderly.unlock (h : s.Orderly) : (s.put l none).Orderly := by
  have hheld : ∀ l' k, (s.put l none).held l' = some k → s.held l' = some k := by
    intro l' k hk
    rw [put_held] at hk
    split at hk
    · cases hk
    · exact hk
  exact ⟨fun _ _ _ _ h₁ h₂ => h.single _ _ _ _ (hheld _ _ h₁) (hheld _ _ h₂),
    fun _ _ h₁ => h.awake _ _ (hheld _ _ h₁), fun _ _ h₁ => h.ahead _ _ (hheld _ _ h₁)⟩

/-- A thread that is awake is left alone by the steps of others, but for the code that a pause goes on with. -/
theorem step_other {s s' : State ι} {th : Thread ι} (hs : Queue.step u s c = some s') (hc : c.isOf t = false)
    (ht : s.threads[t]? = some th) (hawake : th.asleep = none) :
    ∃ th', s'.threads[t]? = some th' ∧ th'.asleep = none ∧
      (th'.stack = th.stack ∨
        ∃ role sc sc' rest, th.stack = .run role sc :: rest ∧ th'.stack = .run role sc' :: rest) := by
  have hlt := (List.getElem?_eq_some_iff.1 ht).1
  cases c with
  | run t' sleeper =>
    have hne : t' ≠ t := Choice.isOf_run.1 hc
    obtain ⟨th₁, i, rest, e, ths, -, -, -, -, hw, rfl⟩ := run_of_step hs
    have hset : (s.threads.set t' (th₁.after rest e))[t]? = some th := by rw [List.getElem?_set_ne hne, ht]
    have hstirs := wake_stirs hw
    obtain ⟨hlen, hget⟩ := List.getElem?_eq_some_iff.1 hset
    have hlt' : t < ths.length := hstirs.length_eq ▸ hlen
    have hone := hstirs.get hlen hlt'
    rw [List.get_eq_getElem, List.get_eq_getElem, hget] at hone
    refine ⟨ths[t], List.getElem?_eq_getElem hlt', ?_, .inl hone.stack⟩
    rcases hone.asleep with heq | heq
    · rw [heq, hawake]
    · exact heq
  | rouse t' =>
    obtain ⟨th', ht', hsleep, rfl⟩ := rouse_of_step hs
    have hne : t' ≠ t := by
      rintro rfl
      cases ht.symm.trans ht'
      rw [hawake] at hsleep
      cases hsleep
    exact ⟨th, by rw [List.getElem?_set_ne hne, ht], hawake, .inl rfl⟩
  | answer t' script =>
    obtain ⟨th', role, label, rest, ht', hst, rfl⟩ := answer_of_step hs
    by_cases heq : t' = t
    · subst heq
      cases ht.symm.trans ht'
      exact ⟨_, List.getElem?_set_self hlt, hawake, .inr ⟨role, _, script, rest, hst, rfl⟩⟩
    · exact ⟨th, by rw [List.getElem?_set_ne heq, ht], hawake, .inl rfl⟩
  | spawn script =>
    cases hs
    exact ⟨th, by rw [State.spawn, List.getElem?_append_left hlt, ht], hawake, .inl rfl⟩
  | tick ms => cases hs; exact ⟨th, ht, hawake, .inl rfl⟩
  | drain n => cases hs; exact ⟨th, ht, hawake, .inl rfl⟩
  | hangUp n => cases hs; exact ⟨th, ht, hawake, .inl rfl⟩

/-- A thread under a lock stays awake, whatever others do. -/
theorem Orderly.awake_other (h : s.Orderly) (hs : Queue.step u s.queue c = some s'.queue) (hk : s.held l = some k)
    (hc : c.isOf k.thread = false) : ∃ th, s'.queue.threads[k.thread]? = some th ∧ th.asleep = none := by
  obtain ⟨th, ht, hawake⟩ := h.awake l k hk
  obtain ⟨th', ht', hawake', -⟩ := step_other hs hc ht hawake
  exact ⟨th', ht', hawake'⟩

/-- What a thread took a lock for stays ahead, whatever others do. -/
theorem Orderly.ahead_other (h : s.Orderly) (hs : Queue.step u s.queue c = some s'.queue)
    (hk : s.held l = some ⟨t, false⟩) (hc : c.isOf t = false) : ∃ i, s'.next? t = some i ∧ i.lock? = some l := by
  obtain ⟨i, hi, hl⟩ := h.ahead l t hk
  obtain ⟨th, rest, ht, hawake, hst⟩ := next?_eq_some.1 hi
  obtain ⟨th', ht', hawake', hst' | ⟨role, sc, sc', below, hrun, -⟩⟩ := step_other hs hc ht hawake
  · exact ⟨i, next?_eq_some.2 ⟨th', rest, ht', hawake', hst'.trans hst⟩, hl⟩
  · rw [hst] at hrun
    cases hrun
    cases hl

/-- What happens to the queue without a thread's doing keeps the order. -/
theorem Orderly.outside (h : s.Orderly) (hs : Queue.step u s.queue c = some q) (hc : ∀ t, c.isOf t = false) :
    ({ s with queue := q } : Locked ι).Orderly :=
  ⟨h.single, fun _ _ hk => h.awake_other hs hk (hc _), fun _ t hk => h.ahead_other hs hk (hc t)⟩

/-- The thread that performed an instruction is still there. -/
theorem getElem?_of_run {s s' : State ι} {sleeper : Option ThreadId}
    (hs : Queue.step u s (.run t sleeper) = some s') : ∃ th, s'.threads[t]? = some th := by
  obtain ⟨th, i, rest, e, ths, ht, -, -, -, hw, rfl⟩ := run_of_step hs
  have hlt := (List.getElem?_eq_some_iff.1 ht).1
  have hlen := (wake_stirs hw).length_eq
  rw [List.length_set] at hlen
  exact ⟨_, List.getElem?_eq_getElem (hlen ▸ hlt)⟩

/-- To say something does not put a thread to sleep. -/
theorem awake_of_say {s s' : State ι} {th : Thread ι} {rest : List (Instr ι)} {n : Log.Notice}
    {sleeper : Option ThreadId} (hs : Queue.step u s (.run t sleeper) = some s') (ht : s.threads[t]? = some th)
    (hst : th.stack = .say n :: rest) : ∃ th', s'.threads[t]? = some th' ∧ th'.asleep = none := by
  obtain ⟨th₁, i, below, e, ths, ht₁, -, hst₁, he, hw, rfl⟩ := run_of_step hs
  cases ht.symm.trans ht₁
  rw [hst] at hst₁
  cases hst₁
  cases he
  simp only [wake] at hw
  split at hw <;> cases hw
  exact ⟨_, List.getElem?_set_self (List.getElem?_eq_some_iff.1 ht).1, rfl⟩

/-- What a thread does under a lock keeps the order. -/
theorem Orderly.act_under (h : s.Orderly) {sleeper : Option ThreadId} (hl : i.lock? = some l)
    (hk : s.held l = some ⟨t, false⟩) (hs : Queue.step u s.queue (.run t sleeper) = some q) :
    (s.after t i q).Orderly := by
  have hs' : Queue.step u s.queue (.run t sleeper) = some (s.after t i q).queue := by rw [hs, after_queue]
  have hothers : ∀ l' k, l' ≠ l → s.held l' = some k → k.thread ≠ t := by
    intro l' k hne hk' heq
    exact hne (h.single _ _ _ _ hk' hk heq)
  -- the thread is under the lock afterwards only if it did not fall asleep
  have hheld : ∀ l' k, (s.after t i q).held l' = some k →
      l' = l ∧ k = ⟨t, true⟩ ∧ q.isAsleep t = false ∨ l' ≠ l ∧ s.held l' = some k := by
    intro l' k hk'
    rw [after_held hl] at hk'
    split at hk'
    · split at hk'
      · cases hk'
      · rename_i heq hasleep
        exact .inl ⟨heq, (Option.some.inj hk').symm, Bool.eq_false_iff.2 hasleep⟩
    · rename_i hne
      exact .inr ⟨hne, hk'⟩
  constructor
  case single =>
    intro l₁ l₂ k₁ k₂ h₁ h₂ heq
    rcases hheld _ _ h₁ with ⟨rfl, rfl, -⟩ | ⟨hne₁, h₁'⟩ <;> rcases hheld _ _ h₂ with ⟨rfl, rfl, -⟩ | ⟨hne₂, h₂'⟩
    · rfl
    · exact absurd heq.symm (hothers _ _ hne₂ h₂')
    · exact absurd heq (hothers _ _ hne₁ h₁')
    · exact h.single _ _ _ _ h₁' h₂' heq
  case awake =>
    intro l₁ k₁ h₁
    rcases hheld _ _ h₁ with ⟨-, rfl, hasleep⟩ | ⟨hne, h₁'⟩
    · obtain ⟨th, ht⟩ := getElem?_of_run hs
      rw [after_queue]
      exact ⟨th, ht, by simpa [State.isAsleep, ht] using hasleep⟩
    · exact h.awake_other hs' h₁' (Choice.isOf_run.2 (hothers _ _ hne h₁').symm)
  case ahead =>
    intro l₁ t₁ h₁
    rcases hheld _ _ h₁ with ⟨-, heq, -⟩ | ⟨hne, h₁'⟩
    · cases heq
    · exact h.ahead_other hs' h₁' (Choice.isOf_run.2 (hothers _ _ hne h₁').symm)

/-- What a thread does without a lock, or before it lets go of one, keeps the order. -/
theorem Orderly.act_free (h : s.Orderly) {sleeper : Option ThreadId} (hi : s.next? t = some i) (hl : i.lock? = none)
    (hstays : ∀ l k, s.held l = some k → k.thread = t → i.staysUnder l = true)
    (hs : Queue.step u s.queue (.run t sleeper) = some q) : ({ s with queue := q } : Locked ι).Orderly := by
  constructor
  case single => exact h.single
  case awake =>
    intro l k hk
    by_cases heq : k.thread = t
    · have hsay := hstays l k hk heq
      obtain ⟨th, rest, ht, -, hst⟩ := next?_eq_some.1 hi
      unfold Instr.staysUnder at hsay
      split at hsay
      · exact heq ▸ awake_of_say hs ht hst
      · cases hsay
    · exact h.awake_other hs hk (Choice.isOf_run.2 (Ne.symm heq))
  case ahead =>
    intro l t' hk
    by_cases heq : t' = t
    · exact absurd (heq ▸ hk) (h.not_ahead hi hl)
    · exact h.ahead_other hs hk (Choice.isOf_run.2 (Ne.symm heq))

theorem permits_under (hl : i.lock? = some l) : s.permits t i = true ↔ s.held l = some ⟨t, false⟩ := by
  simp only [permits, hl, decide_eq_true_eq]

theorem permits_free (hl : i.lock? = none) :
    s.permits t i = true ↔ ∀ l k, s.held l = some k → k.thread = t → i.staysUnder l = true := by
  simp only [permits, hl, List.all_eq_true, Bool.or_eq_true, Bool.not_eq_true']
  constructor
  · intro h l k hk hkt
    rcases h l l.mem_all with hno | hstays
    · rw [isUnder_iff.2 ⟨k, hk, hkt⟩] at hno
      cases hno
    · exact hstays
  · intro h l _
    by_cases hunder : s.isUnder t l = true
    · obtain ⟨k, hk, hkt⟩ := isUnder_iff.1 hunder
      exact .inr (h l k hk hkt)
    · exact .inl (Bool.eq_false_iff.2 hunder)

/-- Every move keeps the order. -/
theorem Orderly.step (h : s.Orderly) (hs : s.step u m = some s') : s'.Orderly := by
  cases m with
  | lock t =>
    obtain ⟨i, l, hi, hl, hfree, -, rfl⟩ := lock_of_step hs
    exact h.lock hi hl hfree
  | unlock t l =>
    obtain ⟨-, rfl⟩ := unlock_of_step hs
    exact h.unlock
  | choose c =>
    by_cases hrun : ∃ t sleeper, c = .run t sleeper
    · obtain ⟨t, sleeper, rfl⟩ := hrun
      obtain ⟨i, q, hi, hpermits, hq, rfl⟩ := run_of_choose hs
      cases hl : i.lock? with
      | some l => exact h.act_under hl ((permits_under hl).1 hpermits) hq
      | none =>
        simp only [after, hl]
        exact h.act_free hi hl ((permits_free hl).1 hpermits) hq
    · have hc : ∀ t sleeper, c ≠ .run t sleeper := fun t sleeper heq => hrun ⟨t, sleeper, heq⟩
      obtain ⟨q, hq, rfl⟩ := outside_of_choose hc hs
      refine h.outside hq fun t => ?_
      cases c with
      | run t' sleeper => exact absurd rfl (hc t' sleeper)
      | _ => rfl

/-- The order of sections holds in every run. -/
theorem Orderly.execute (h : s.Orderly) (he : s.execute u ms = some s') : s'.Orderly := by
  induction ms generalizing s with
  | nil => exact Option.some.inj he ▸ h
  | cons m ms ih =>
    obtain ⟨s₁, hs₁, he⟩ := Option.bind_eq_some_iff.1 he
    exact ih (h.step hs₁) he

/-! ## Nobody waits under a lock -/

/-- What wants a lock, or stays under one, can be performed at once. -/
theorem perform_of_lock {sh : Shared ι} {ended : ThreadId → Bool} {reply : Reply ι}
    (hi : i.lock?.isSome = true ∨ i.staysUnder l = true) : ∃ e, perform u sh ended t reply i = some e := by
  rw [← Option.ne_none_iff_exists']
  intro hnone
  rcases waits_of_perform hnone with ⟨role, label, rfl⟩ | ⟨w, rfl, -⟩ | ⟨rfl, -⟩ <;>
    rcases hi with hi | hi <;> cases hi

/-- What comes next for an awake thread can be done with just the locks that it holds. -/
theorem act_of_permits (hi : s.next? t = some i) (hswift : i.lock?.isSome = true ∨ i.staysUnder l = true)
    (hpermits : s.permits t i = true) : ∃ m s', m.isOf t = true ∧ s.step u m = some s' := by
  obtain ⟨th, rest, ht, hawake, hst⟩ := next?_eq_some.1 hi
  obtain ⟨e, he⟩ := perform_of_lock hswift
  obtain ⟨sleeper, q, hq⟩ := step_of_perform (u := u) ht hawake hst he
  refine ⟨.choose (.run t sleeper), s.after t i q, by simp [Move.isOf, Choice.isOf], ?_⟩
  simp only [Locked.step, hi, hpermits, if_true, hq, Option.map_some]

/-- Whoever is under a lock can go on: it does what it took the lock for, says that it failed, or lets go. -/
theorem Orderly.holder_moves (h : s.Orderly) (hk : s.held l = some k) :
    ∃ m s', m.isOf k.thread = true ∧ s.step u m = some s' := by
  obtain ⟨t, done⟩ := k
  cases done with
  | false =>
    obtain ⟨i, hi, hl⟩ := h.ahead l t hk
    exact act_of_permits hi (l := l) (.inl (by rw [hl]; rfl)) ((permits_under hl).2 hk)
  | true =>
    by_cases hstays : ∃ i, s.next? t = some i ∧ i.staysUnder l = true
    · obtain ⟨i, hi, hstays⟩ := hstays
      have hl : i.lock? = none := by
        unfold Instr.staysUnder at hstays
        split at hstays
        · rfl
        · cases hstays
      refine act_of_permits hi (.inr hstays) ((permits_free hl).2 fun l' k hk' hkt => ?_)
      rw [h.single _ _ _ _ hk' hk hkt]
      exact hstays
    · refine ⟨.unlock t l, s.put l none, by simp [Move.isOf], ?_⟩
      have hno : (s.next? t).any (·.staysUnder l) = false := by
        cases hi : s.next? t with
        | none => rfl
        | some i => exact Bool.eq_false_iff.2 fun hi' => hstays ⟨i, hi, hi'⟩
      simp [Locked.step, hk, hno]

end Locked

end Conveyor.Queue
