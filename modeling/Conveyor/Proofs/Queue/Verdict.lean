import Conveyor.Proofs.Queue.Joining

/-!
# How an attempt to enqueue may come out

Each look at the state lock on behalf of a bid decides it, or does not and has the thread wait for room. `verdict?` is
what a look decides, in the order in which the reasons are gone through: a queue that is disposed before the first look,
one that takes no more items, room, a cancelled token, a deadline that is over.

* `verdict?_eq_some`: each verdict is given in exactly the states in which it holds.
* `perform_decided`, `perform_vain`: what a look does that decides the bid, and one that does not.
* `Reachable.disposed_of_dead`: a producer's handle finds no queue only if that is disposed.
-/

namespace Conveyor.Queue

variable {ι : Type}

/-! ## Verdicts -/

inductive Verdict where
  /-- The queue was disposed before the attempt. -/
  | denied
  | accepted
  /-- The queue takes no more items. -/
  | refused
  | cancelled
  | timedOut
deriving DecidableEq

namespace Verdict

/-- What the caller gets to know, who may have asked to try. -/
def reply (trying : Bool) : Verdict → Reply ι
  | .denied => .error .disposed
  | .accepted => if trying then .bool true else .unit
  | .refused => if trying then .bool false else .unit
  | .cancelled => if trying then .bool false else .error .cancelled
  | .timedOut => if trying then .bool false else .error (.operationFailed "enqueue timed out without a deadline")

/-- When a verdict is true of the state, at the first look or a later one. -/
def Holds (u : Setup ι) (s : Shared ι) (bid : Bid ι) (first : Bool) : Verdict → Prop
  | .denied => first = true ∧ s.buffer.value.disposed = true
  | .refused => s.buffer.value.isClosed = true ∧ (first = true → s.buffer.value.disposed = false)
  | .accepted => s.buffer.value.isClosed = false ∧ s.buffer.value.hasRoom u.capacity = true
  | .cancelled =>
    s.buffer.value.isClosed = false ∧ s.buffer.value.hasRoom u.capacity = false ∧
      bid.token.any (· ∈ s.cancelled) = true
  | .timedOut =>
    s.buffer.value.isClosed = false ∧ s.buffer.value.hasRoom u.capacity = false ∧
      bid.token.any (· ∈ s.cancelled) = false ∧ bid.deadline.any (· ≤ s.now) = true

/-- What the thread does about its verdict before it replies: the counter, and what is owed to others. -/
def errand (u : Setup ι) (s : Shared ι) : Verdict → List (Instr ι)
  | .accepted => [.bump .enqueued 1, .notifyOne .notEmpty]
  | .refused => raise (s.refusal u)
  | _ => []

/-- The shared state once the verdict is given, on thread `t`. -/
def settle (u : Setup ι) (s : Shared ι) (t : ThreadId) (bid : Bid ι) : Verdict → Shared ι
  | .accepted => (s.setBuffer (s.buffer.value.push bid.item)).note t (.accepted bid.item)
  | .refused => s.note t (.raised (s.refusal u))
  | _ => s

/-- The effect of giving the verdict: with nothing to do about it, the reply comes at once. -/
def effect (u : Setup ι) (s : Shared ι) (t : ThreadId) (bid : Bid ι) (v : Verdict) : Effect ι where
  shared := v.settle u s t bid
  push := if v.errand u s = [] then [] else v.errand u s ++ [.reply (v.reply bid.trying)]
  reply := if v.errand u s = [] then some (v.reply bid.trying) else none

end Verdict

/-- What a look decides about a bid; nothing if the thread has to wait. -/
def verdict? (u : Setup ι) (s : Shared ι) (bid : Bid ι) (first : Bool) : Option Verdict :=
  if first && s.buffer.value.disposed then some .denied
  else if s.buffer.value.isClosed then some .refused
  else if s.buffer.value.hasRoom u.capacity then some .accepted
  else if bid.token.any (· ∈ s.cancelled) then some .cancelled
  else if bid.deadline.any (· ≤ s.now) then some .timedOut
  else none

section Verdicts

variable {u : Setup ι} {s : Shared ι} {bid : Bid ι} {first : Bool} {v : Verdict}

/-- A look gives exactly that verdict that holds. -/
theorem verdict?_eq_some : verdict? u s bid first = some v ↔ v.Holds u s bid first := by
  unfold verdict?
  split
  · rename_i hentry
    obtain ⟨hfirst, hd⟩ := Bool.and_eq_true_iff.1 hentry
    cases v <;> simp [Verdict.Holds, Buffer.isClosed, hfirst, hd]
  rename_i hentry
  split
  · rename_i hclosed
    cases v <;> simp_all [Verdict.Holds]
  rename_i hopen
  have hopen := Bool.eq_false_iff.2 hopen
  obtain ⟨hd, ha⟩ := Bool.or_eq_false_iff.1 hopen
  split
  · rename_i hroom
    cases v <;> simp [Verdict.Holds, hopen, hd, hroom]
  rename_i hfull
  have hfull := Bool.eq_false_iff.2 hfull
  split
  · rename_i htoken
    cases v <;> simp only [Verdict.Holds, hopen, hd, hfull, htoken] <;> simp
  rename_i htoken
  have htoken := Bool.eq_false_iff.2 htoken
  split
  · rename_i hover
    cases v <;> simp only [Verdict.Holds, hopen, hd, hfull, htoken, hover] <;> simp
  · rename_i hleft
    cases v <;> simp only [Verdict.Holds, hopen, hd, hfull, htoken, hleft] <;> simp

/-- A look decides nothing exactly if no verdict holds. -/
theorem verdict?_eq_none : verdict? u s bid first = none ↔ ∀ v : Verdict, ¬ v.Holds u s bid first := by
  simp only [Option.eq_none_iff_forall_ne_some, ne_eq, verdict?_eq_some]

/-- Where a look gives a verdict, that one holds and no other. -/
theorem holds_iff (h : verdict? u s bid first = some v) (v' : Verdict) : v'.Holds u s bid first ↔ v' = v := by
  rw [← verdict?_eq_some, h, Option.some.injEq, eq_comm]

end Verdicts

section Perform

variable {u : Setup ι} {s : Shared ι} {ended : ThreadId → Bool} {t : ThreadId} {held : Reply ι} {i : Instr ι}
  {bid : Bid ι}

theorem look_eq (u : Setup ι) (s : Shared ι) (t : ThreadId) (bid : Bid ι) :
    look u s t bid = match verdict? u s bid false with
      | some v => v.effect u s t bid
      | none => { shared := s, push := [.retry bid], asleep := some .notFull } := by
  unfold look Guarded.recovered
  dsimp only
  by_cases hd : s.buffer.value.disposed = true
  · simp [verdict?, Buffer.isClosed, hd, Verdict.effect, Verdict.errand, Verdict.settle, Verdict.reply,
      Shared.refusal, raise]
  by_cases ha : s.buffer.value.addingCompleted = true
  · simp [verdict?, Buffer.isClosed, hd, ha, Verdict.effect, Verdict.errand, Verdict.settle, Verdict.reply,
      Shared.refusal, raise]
  have hopen : s.buffer.value.isClosed = false := by simp [Buffer.isClosed, hd, ha]
  rw [if_neg hd, if_neg ha]
  unfold verdict?
  rw [hopen, Bool.false_and, if_neg Bool.false_ne_true, if_neg Bool.false_ne_true]
  by_cases hroom : s.buffer.value.hasRoom u.capacity = true
  · rw [if_pos hroom, if_pos hroom]
    rfl
  rw [if_neg hroom, if_neg hroom]
  by_cases htoken : bid.token.any (· ∈ s.cancelled) = true
  · rw [if_pos htoken, if_pos htoken]
    rfl
  rw [if_neg htoken, if_neg htoken]
  by_cases hover : bid.deadline.any (· ≤ s.now) = true
  · rw [if_pos hover, if_pos hover]
    rfl
  · rw [if_neg hover, if_neg hover]

/-- A look that decides a bid. -/
theorem perform_decided (hi : i.bid? = some bid) (hsound : s.buffer.poisoned = false) {v : Verdict}
    (hv : verdict? u s bid i.isEntry = some v) :
    perform u s ended t held i = some (v.effect u s t bid) := by
  cases i with
  | enter b =>
    cases hi
    simp only [perform, Guarded.checked, hsound, Bool.false_eq_true, if_false]
    by_cases hd : s.buffer.value.disposed = true
    · obtain rfl : v = .denied := by simpa [verdict?, Instr.isEntry, hd, eq_comm] using hv
      rw [if_pos hd]
      rfl
    · have hlook : verdict? u s bid false = some v := by simpa [verdict?, Instr.isEntry, hd] using hv
      rw [if_neg hd, look_eq, hlook]
  | retry b =>
    cases hi
    have hlook : verdict? u s bid false = some v := hv
    simp only [perform, Guarded.checked, hsound, Bool.false_eq_true, if_false]
    rw [look_eq, hlook]
  | _ => cases hi

/-- A look that decides nothing. -/
theorem perform_vain (hi : i.bid? = some bid) (hsound : s.buffer.poisoned = false)
    (hv : verdict? u s bid i.isEntry = none) :
    perform u s ended t held i = some { shared := s, push := [.retry bid], asleep := some .notFull } := by
  cases i with
  | enter b =>
    cases hi
    have hd : s.buffer.value.disposed = false := by
      by_contra hd
      simp [verdict?, Instr.isEntry, Bool.eq_true_of_not_eq_false hd] at hv
    have hlook : verdict? u s bid false = none := by simpa [verdict?, Instr.isEntry, hd] using hv
    simp only [perform, Guarded.checked, hsound, hd, Bool.false_eq_true, if_false]
    rw [look_eq, hlook]
  | retry b =>
    cases hi
    have hlook : verdict? u s bid false = none := hv
    simp only [perform, Guarded.checked, hsound, Bool.false_eq_true, if_false]
    rw [look_eq, hlook]
  | _ => cases hi

end Perform

/-! ## A producer that finds no queue -/

/-- Wherever the owner is to let go of the queue, it is to dispose it just before. -/
def Paired (st : List (Instr ι)) : Prop := ∀ p q, st = p ++ .disown :: q → ∃ p', p = p' ++ [.dispose]

section Paired

variable {i : Instr ι} {p st : List (Instr ι)}

theorem Paired.cons (h : Paired st) (hi : i ≠ .disown) : Paired (i :: st) := by
  rintro (_ | ⟨j, p⟩) q hst
  · exact absurd (List.cons.inj hst).1 hi
  · obtain ⟨p', rfl⟩ := h p q (List.cons.inj hst).2
    exact ⟨j :: p', rfl⟩

theorem Paired.append (h : Paired st) (hp : ∀ j ∈ p, j ≠ .disown) : Paired (p ++ st) := by
  induction p with
  | nil => exact h
  | cons j p ih => exact (ih fun k hk => hp k (List.mem_cons_of_mem _ hk)).cons (hp j List.mem_cons_self)

theorem Paired.tail (h : Paired (i :: st)) (hi : i ≠ .dispose) : Paired st := by
  intro p q hst
  obtain ⟨_ | ⟨j, p'⟩, hp'⟩ := h (i :: p) q (congrArg (i :: ·) hst)
  · exact absurd (List.cons.inj hp').1 hi
  · exact ⟨p', (List.cons.inj hp').2⟩

theorem Paired.ne_disown (h : Paired (i :: st)) : i ≠ .disown := by
  rintro rfl
  obtain ⟨p', hp'⟩ := h [] st rfl
  simp at hp'

theorem Paired.drop (h : Paired st) : Paired (.dispose :: .disown :: st) := by
  rintro (_ | ⟨j, _ | ⟨k, p⟩⟩) q hst
  · cases hst
  · exact ⟨[], by rw [(List.cons.inj hst).1]; rfl⟩
  · obtain ⟨p', rfl⟩ := h p q (List.cons.inj (List.cons.inj hst).2).2
    exact ⟨j :: k :: p', rfl⟩

end Paired

section Reachable

variable {u : Setup ι} {s : State ι} {t : ThreadId}

/-- What a step leaves is paired, unless it disposes the queue. -/
theorem paired_of_perform {sh : Shared ι} {ended : ThreadId → Bool} {held : Reply ι} {i : Instr ι} {e : Effect ι}
    {rest : List (Instr ι)} (hsound : i.isSound = true) (he : perform u sh ended t held i = some e)
    (hi : i ≠ .dispose) (h : Paired (i :: rest)) : Paired (e.push ++ rest) := by
  have hrest := h.tail hi
  rcases final_of_perform hsound he with hno | rfl | ⟨rfl, -⟩ | ⟨role, next, rfl⟩
  · refine hrest.append fun j hj => ?_
    rintro rfl
    cases hno _ hj
  · cases he
    refine hrest.append fun j hj => ?_
    rintro rfl
    simp at hj
  · exact absurd rfl hi
  · cases he
    exact (hrest.cons (by simp)).drop

/-- As long as a queue is open its owner has not let go of it, and is to dispose it just before. -/
theorem Reachable.owned_of_open (h : Reachable u s) (hopen : s.shared.buffer.value.disposed = false) :
    s.shared.owned = true ∧ ∀ t, Paired (stackAt s.stacks t) := by
  induction h with
  | start =>
    have hnil : Paired ([] : List (Instr ι)) := fun p q hst => by simp at hst
    refine ⟨rfl, fun t => ?_⟩
    rw [stackAt_start]
    split
    · exact (hnil.cons (by simp)).cons (by simp)
    · exact hnil
  | @step s s' c hr hs ih =>
    have hopen₀ := hr.open_of_step hs hopen
    obtain ⟨howned, hpaired⟩ := ih hopen₀
    refine ⟨?_, fun t => ?_⟩
    · rcases (belongings_of_step hs).2 with heq | ⟨t, -, rest, -, hst⟩
      · rw [heq, howned]
      · exact absurd rfl (hst ▸ hpaired t : Paired (.disown :: rest)).ne_disown
    · have h₀ := hpaired t
      rcases stackAt_of_step hs t with ⟨th, i, rest, e, sleeper, ths, -, ht, -, hth, he, -, rfl, hst'⟩ |
        ⟨-, ⟨role, label, rest, script, hst, hst'⟩ | ⟨script, -, hst, hst'⟩ | hst'⟩
      · have hget := getElem?_stacks ht
        rw [stackAt_of_getElem? hget, hth] at h₀
        rw [hst']
        refine paired_of_perform (hr.sound.head (hth ▸ hget)) he ?_ h₀
        rintro rfl
        rw [disposed_of_dispose he] at hopen
        cases hopen
      · rw [hst] at h₀
        rw [hst']
        exact (h₀.tail (by simp)).cons (by simp)
      · rw [hst] at h₀
        rw [hst']
        exact h₀.cons (by simp)
      · rw [hst']
        exact h₀

/-- A queue that is alive no more was disposed. -/
theorem Reachable.disposed_of_dead (h : Reachable u s) (hdead : s.shared.strong = 0) :
    s.shared.buffer.value.disposed = true := by
  by_contra hopen
  exact h.alive_of_owned (h.owned_of_open (Bool.eq_false_iff.2 hopen)).1 hdead

end Reachable

end Conveyor.Queue
