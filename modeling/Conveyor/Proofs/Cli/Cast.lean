import Conveyor.Cli.Job
import Conveyor.Proofs.Queue.Settling
import Conveyor.Proofs.Queue.Upkeep
import Conveyor.Proofs.Workload

/-!
# The parts that the threads of a job play

What a thread of a job can have on its stack. A worker has its routine and the handler of the workload (`Toils`). The
main task and the observer make calls of few kinds, one chore after the other, and then rest or end (`Plays`); of two
calls of the main task it matters how far they are (`Completing`, `Tallying`). A producer has ids left to deliver, and is
somewhere in the delivery of one (`Feeding`). Each of these is kept by whatever the thread performs, and says what that
can be.

* `toils_of_perform`, `plays_of_perform`, `completing_of_perform`, `tallying_of_perform`, `feeding_of_perform`: the parts
  are kept.
-/

namespace Conveyor.Cli.Job

open Queue

section Perform

variable {u : Setup Nat} {w : Workload} {sh : Shared Nat} {ended : ThreadId → Bool} {t : ThreadId} {held : Reply Nat}
  {i : Instr Nat} {rest : List (Instr Nat)} {e : Effect Nat}

/-! ## Workers -/

/-- The instructions of a worker. -/
def Toils (w : Workload) : Instr Nat → Prop
  | .run role script => ∃ id, role = .handler id ∧ (script = w.handler id ∨ w.succeeds id = true ∧ script = .done)
  | .resume role next => ∃ id, role = .handler id ∧ w.succeeds id = true ∧ next = fun _ => .done
  | .bump c _ => c = .processed ∨ c = .failed
  | .invoke .. => False
  | i => i.isRoutine = true

/-- A worker that performs an instruction has more of its kind to do. -/
theorem toils_of_perform (hcode : u.code = w.code) (hcallbacks : sh.callbacks = []) (hi : Toils w i)
    (he : perform u sh ended t held i = some e) : ∀ j ∈ e.push, Toils w j := by
  have seeks : ∀ j ∈ (seek u sh t).push, Toils w j := by
    unfold seek
    dsimp only
    repeat' split
    all_goals simp [Toils, Instr.isRoutine]
  cases i with
  | run role script =>
    obtain ⟨id, rfl, hscript⟩ := hi
    cases script with
    | ret ending =>
      cases he
      cases ending <;> simp [followUp, raise, Toils, Instr.isRoutine]
    | call c next =>
      cases he
      rcases hscript with hscript | ⟨-, hscript⟩
      · unfold Workload.handler at hscript
        split at hscript <;> cases hscript
        rename_i hok
        simp [Call.instrs, Toils, Instr.isRoutine, Workload.succeeds, hok]
      · cases hscript
    | pause label => cases he
  | resume role next =>
    obtain ⟨id, rfl, hok, rfl⟩ := hi
    cases he
    simp [Toils, hok]
  | take => cases he; exact seeks
  | retake => cases he; exact seeks
  | start x =>
    cases he
    simp [Toils, hcode, Workload.code]
  | finish =>
    cases he
    dsimp only
    split <;> simp [Toils, Instr.isRoutine]
  | dispatch x =>
    cases he
    simp [hcallbacks]
  | publish x =>
    cases he
    dsimp only
    split <;> simp [Toils, Instr.isRoutine]
  | resolve drained =>
    simp only [perform, Option.some.injEq] at he
    split at he
    · cases he; simp
    · cases he
      cases drained <;> simp [Toils, Instr.isRoutine]
  | invoke c x => cases hi
  | bump c n => cases he; simp
  | notifyOne c => cases he; simp
  | notifyAll c => cases he; simp
  | say n => cases he; simp
  | setWatch b => cases he; simp
  | release => cases he; simp
  | _ => cases hi

/-! ## The main task and the observer -/

/-- The kinds of things that clients of a job do. -/
inductive Chore where
  /-- Says something, subscribes, unsubscribes. -/
  | talk
  /-- Makes known that adding has ended. -/
  | completing
  /-- Lets go of the queue. -/
  | parting
deriving DecidableEq

/-- What belongs to a chore, in a queue of `n` workers. -/
def Chore.allows (n : Nat) : Chore → Instr Nat → Bool
  | .talk, .say _ | .talk, .subscribe .. | .talk, .unsubscribe _ => true
  | .completing, .notifyAll _ | .completing, .publish _ | .completing, .say _ | .completing, .resolve true
  | .completing, .setWatch _ | .completing, .reply .unit => true
  | .parting, .say _ | .parting, .dispose | .parting, .disown | .parting, .notifyAll _ | .parting, .resolve _
  | .parting, .setWatch _ | .parting, .publish _ | .parting, .takeHandles | .parting, .reply _ => true
  | .parting, .bump c _ => c = .abandoned
  | .parting, .join t => t < n
  | _, _ => false

/-- A script that makes only calls of one chore, whatever the replies, and then ends (if `ends`) or rests. -/
inductive Tame (n : Nat) (c : Chore) : Bool → Script Nat → Prop
  | ret (e : Ending Nat) : Tame n c true (.ret e)
  | pause (label : String) : Tame n c false (.pause label)
  | call {ends : Bool} {call : Call Nat} {next : Reply Nat → Script Nat}
      (hcall : ∀ now, ∀ i ∈ call.instrs now, c.allows n i = true) (hnext : ∀ r, Tame n c ends (next r))
      (heffort : ∀ r w k, (next r).effort w k = (next .unit).effort w k) : Tame n c ends (.call call next)

/-- The stack of a client that follows a tame script. -/
inductive Plays (n : Nat) (c : Chore) (ends : Bool) : List (Instr Nat) → Prop
  | run {script : Script Nat} (h : Tame n c ends script) : Plays n c ends [.run .client script]
  | call {p : List (Instr Nat)} {next : Reply Nat → Script Nat} (hp : ∀ i ∈ p, c.allows n i = true)
      (hnext : ∀ r, Tame n c ends (next r)) (heffort : ∀ r w k, (next r).effort w k = (next .unit).effort w k) :
      Plays n c ends (p ++ [.resume .client next])
  | ended (h : ends = true) : Plays n c ends []

variable {n : Nat} {c : Chore} {ends : Bool}

/-- What belongs to a chore leaves only more of it to do. -/
theorem allows_of_perform (hhandles : ∀ t ∈ sh.handles, t < n) (hi : c.allows n i = true)
    (he : perform u sh ended t held i = some e) : ∀ j ∈ e.push, c.allows n j = true := by
  cases i with
  | say m => cases he; simp
  | subscribe id filter => cases he; simp
  | unsubscribe id => cases he; simp
  | notifyAll k => cases he; simp
  | setWatch b => cases he; simp
  | reply r => cases he; simp
  | disown => cases he; simp
  | bump k m => cases he; simp
  | publish x =>
    cases he
    dsimp only
    cases c <;> cases hi <;> split <;> simp [Chore.allows]
  | resolve drained =>
    simp only [perform, Option.some.injEq] at he
    split at he
    · cases he; simp
    · cases he
      cases c <;> cases drained <;> cases hi <;> simp [Chore.allows]
  | dispose =>
    simp only [perform, Option.some.injEq] at he
    split at he
    · cases he; simp
    · cases he
      cases c <;> cases hi
      simp [Chore.allows]
  | takeHandles =>
    cases he
    cases c <;> cases hi
    intro j hj
    rcases List.mem_append.1 hj with hj | hj
    · obtain ⟨t', ht', rfl⟩ := List.mem_map.1 hj
      simpa [Chore.allows] using hhandles t' (List.mem_of_mem_filter ht')
    · rw [List.mem_singleton.1 hj]
      rfl
  | join t' =>
    simp only [perform] at he
    split at he
    · cases he; simp
    · cases he
  | _ => cases c <;> cases hi

/-- A client that performs an instruction goes on with its part. -/
theorem plays_of_perform (hhandles : ∀ t ∈ sh.handles, t < n) (h : Plays n c ends (i :: rest))
    (he : perform u sh ended t held i = some e) : Plays n c ends (e.push ++ rest) := by
  generalize hst : i :: rest = st at h
  cases h with
  | run hscript =>
    cases hst
    cases hscript with
    | ret ending => cases he; exact .ended rfl
    | pause label => cases he
    | call hcall hnext heffort =>
      cases he
      rw [List.append_nil]
      exact .call (hcall _) hnext heffort
  | @call p next hp hnext heffort =>
    cases p with
    | nil =>
      cases hst
      cases he
      exact .run (hnext _)
    | cons j p =>
      cases hst
      show Plays n c ends (e.push ++ (p ++ [.resume .client next]))
      rw [← List.append_assoc]
      refine .call (fun k hk => ?_) hnext heffort
      rcases List.mem_append.1 hk with hk | hk
      · exact allows_of_perform hhandles (hp i List.mem_cons_self) he k hk
      · exact hp k (List.mem_cons_of_mem _ hk)
  | ended => cases hst

/-! ## Two calls of the main task -/

/-- Where the main task stands that completes adding in a queue of `n` workers: its stack, and the reply it holds. -/
inductive Completing (n : Nat) (sh : Shared Nat) : List (Instr Nat) → Reply Nat → Prop
  | asking {r : Reply Nat} : Completing n sh [.run .client (thenRest .completeAdding)] r
  | asked : Completing n sh [.completeAdding, .resume .client fun _ => atRest] .unit
  | heard {p : List (Instr Nat)} {r : Reply Nat} (hdone : sh.buffer.value.addingCompleted = true)
      (hp : ∀ i ∈ p, Chore.completing.allows n i = true) (hr : ∀ x, r ≠ .error x) :
      Completing n sh (p ++ [.resume .client fun _ => atRest]) r
  | done {r : Reply Nat} (hdone : sh.buffer.value.addingCompleted = true) (hr : ∀ x, r ≠ .error x) :
      Completing n sh [.run .client atRest] r

/-- What makes known that adding has ended sets no reply that is an error. -/
theorem reply_of_allows (hi : Chore.completing.allows n i = true) (hheld : ∀ x, held ≠ .error x)
    (he : perform u sh ended t held i = some e) : ∀ x, e.reply.getD held ≠ .error x := by
  cases i with
  | say m => cases he; exact hheld
  | notifyAll k => cases he; exact hheld
  | publish x => cases he; exact hheld
  | setWatch b => cases he; exact hheld
  | resolve drained =>
    simp only [perform, Option.some.injEq] at he
    split at he <;> (cases he; exact hheld)
  | reply r =>
    cases he
    cases r <;> cases hi
    simp
  | _ => cases hi

/-- Completing adding goes on. -/
theorem completing_of_perform (hpoison : sh.buffer.poisoned = false) (hopen : sh.buffer.value.disposed = false)
    (hhandles : ∀ t ∈ sh.handles, t < n)
    (hdone : sh.buffer.value.addingCompleted = true → e.shared.buffer.value.addingCompleted = true)
    (h : Completing n sh (i :: rest) held) (he : perform u sh ended t held i = some e) :
    Completing n e.shared (e.push ++ rest) (e.reply.getD held) := by
  generalize hst : i :: rest = st at h
  cases h with
  | asking =>
    cases hst
    cases he
    exact .asked
  | asked =>
    cases hst
    simp only [perform, Guarded.checked, hpoison, hopen, Bool.false_eq_true, if_false, Option.some.injEq] at he
    cases he
    refine .heard rfl ?_ (by simp)
    dsimp only
    split <;> split <;> simp [Chore.allows]
  | @heard p _ hcompleted hp hr =>
    cases p with
    | nil =>
      cases hst
      cases he
      exact .done hcompleted hr
    | cons j p =>
      cases hst
      have hi := hp i List.mem_cons_self
      show Completing n e.shared (e.push ++ (p ++ _)) _
      rw [← List.append_assoc]
      refine .heard (hdone hcompleted) (fun k hk => ?_) (reply_of_allows hi hr he)
      rcases List.mem_append.1 hk with hk | hk
      · exact allows_of_perform hhandles hi he k hk
      · exact hp k (List.mem_cons_of_mem _ hk)
  | done =>
    cases hst
    cases he

/-- Where the main task stands that reads the counters of a queue whose statistics are `b`. -/
inductive Tallying (b : Stats) : List (Instr Nat) → Reply Nat → Prop
  | asking {r : Reply Nat} : Tallying b [.run .client (thenRest .stats)] r
  | asked {r : Reply Nat} : Tallying b [.stats, .resume .client fun _ => atRest] r
  | reading {p : List (Instr Nat)} {k : Stats} (hp : ∀ i ∈ p, ∃ c, i = .load c)
      (hread : ∀ c, .load c ∉ p → k.get c = b.get c) (hpending : k.pending = b.pending) (hactive : k.active = b.active) :
      Tallying b (p ++ [.resume .client fun _ => atRest]) (.stats k)
  | read : Tallying b [.run .client atRest] (.stats b)

theorem counters_ext {k k' : Counters} (h : ∀ c, k.get c = k'.get c) : k = k' := by
  cases k
  cases k'
  rw [Counters.mk.injEq]
  exact ⟨h .enqueued, h .processed, h .failed, h .rejected, h .abandoned⟩

/-- Reading the counters goes on, and what is read is what there is. -/
theorem tallying_of_perform (h : Tallying sh.stats (i :: rest) held) (he : perform u sh ended t held i = some e) :
    Tallying sh.stats (e.push ++ rest) (e.reply.getD held) := by
  generalize hst : i :: rest = st at h
  cases h with
  | asking =>
    cases hst
    cases he
    exact .asked
  | asked =>
    cases hst
    cases he
    refine .reading (by simp [loads]) ?_ rfl rfl
    intro c hc
    cases c <;> simp [loads] at hc
  | @reading p k hp hread hpending hactive =>
    cases p with
    | nil =>
      cases hst
      cases he
      obtain ⟨counters, pending, active⟩ := k
      obtain rfl : counters = sh.stats.toCounters := counters_ext fun c => hread c (by simp)
      obtain rfl : pending = sh.stats.pending := hpending
      obtain rfl : active = sh.stats.active := hactive
      exact .read
    | cons j p =>
      cases hst
      obtain ⟨c, rfl⟩ := hp i List.mem_cons_self
      cases he
      refine .reading (fun k hk => hp k (List.mem_cons_of_mem _ hk)) (fun c' hc' => ?_) hpending hactive
      show (k.toCounters.set (sh.counters.get c) c).get c' = _
      rw [Counters.get_set]
      split
      · rename_i heq
        rw [← heq]
        rfl
      · refine hread c' fun hmem => ?_
        rcases List.mem_cons.1 hmem with heq | hmem
        · rename_i hne
          cases heq
          exact hne rfl
        · exact hc' hmem
  | read =>
    cases hst
    cases he

/-! ## Producers -/

/-- A script that delivers ids, if its token is not cancelled and it meets with no error. -/
inductive Feeds : List Nat → Script Nat → Prop
  | ret (e : Ending Nat) : Feeds [] (.ret e)
  | ask {ids : List Nat} {next : Reply Nat → Script Nat} (hsame : next (.bool false) = next .unit)
      (h : Feeds ids (next .unit)) : Feeds ids (.call (.isCancelled token) next)
  | add {id : Nat} {ids : List Nat} {next : Reply Nat → Script Nat} (h : Feeds ids (next .unit)) :
      Feeds (id :: ids) (.call (.add .producer id (some token)) next)

/-- A producer delivers its stripe. -/
theorem feeds_produce (ids : List Nat) : Feeds ids (Production.produce token ids) := by
  suffices h : ∀ m, Feeds ids (Production.feed token (fun m => Production.finish m none) ids m) from h 0
  induction ids with
  | nil => exact fun m => .ret _
  | cons id ids ih => exact fun m => .ask rfl (.add (ih (m + 1)))

/-- The bid for an id. -/
def bidFor (id : Nat) : Bid Nat := ⟨id, false, none, some token⟩

/-- What is left to do for an id that was accepted. -/
def isReceipt : Instr Nat → Bool
  | .bump c _ => c = .enqueued
  | .notifyOne _ | .reply .unit | .release => true
  | _ => false

/-- Where a producer stands that has the given ids left to deliver: its stack, the reply it holds, and how it ended. -/
inductive Feeding : List Nat → List (Instr Nat) → Reply Nat → Option (Ending Nat) → Prop
  | run {ids : List Nat} {script : Script Nat} {r : Reply Nat} {o : Option (Ending Nat)} (h : Feeds ids script) :
      Feeding ids [.run .client script] r o
  | asking {ids : List Nat} {next : Reply Nat → Script Nat} {r : Reply Nat} {o : Option (Ending Nat)}
      (hsame : next (.bool false) = next .unit) (h : Feeds ids (next .unit)) :
      Feeding ids [.isCancelled token, .resume .client next] r o
  | asked {ids : List Nat} {next : Reply Nat → Script Nat} {o : Option (Ending Nat)}
      (hsame : next (.bool false) = next .unit) (h : Feeds ids (next .unit)) :
      Feeding ids [.resume .client next] (.bool false) o
  | lifting {id : Nat} {ids : List Nat} {next : Reply Nat → Script Nat} {r : Reply Nat} {o : Option (Ending Nat)}
      (h : Feeds ids (next .unit)) :
      Feeding (id :: ids) [.upgrade [.enter (bidFor id)] (.error .disposed), .resume .client next] r o
  | bidding {id : Nat} {ids : List Nat} {next : Reply Nat → Script Nat} {r : Reply Nat} {o : Option (Ending Nat)}
      {i : Instr Nat} (hi : i = .enter (bidFor id) ∨ i = .retry (bidFor id)) (h : Feeds ids (next .unit)) :
      Feeding (id :: ids) [i, .release, .resume .client next] r o
  | accepted {ids : List Nat} {next : Reply Nat → Script Nat} {r : Reply Nat} {o : Option (Ending Nat)}
      {p : List (Instr Nat)} (hp : ∀ i ∈ p, isReceipt i = true) (hr : .reply .unit ∈ p ∨ r = .unit)
      (h : Feeds ids (next .unit)) : Feeding ids (p ++ [.resume .client next]) r o
  | ended {r : Reply Nat} {o : Option (Ending Nat)} (ho : o.isSome = true) : Feeding [] [] r o

/-- A producer that has ended has nothing left to deliver. -/
theorem feeding_nil {ids : List Nat} {r : Reply Nat} {o : Option (Ending Nat)} (h : Feeding ids [] r o) :
    ids = [] ∧ o.isSome = true := by
  generalize hst : ([] : List (Instr Nat)) = st at h
  cases h with
  | ended ho => exact ⟨rfl, ho⟩
  | accepted => exact absurd hst.symm (List.append_ne_nil_of_right_ne_nil _ (List.cons_ne_nil _ _))
  | _ => cases hst

/-- What a producer of a queue that is open and alive does to what it has left: nothing, or it has one more id
accepted. -/
def Delivers (sh : Shared Nat) (t : ThreadId) (o : Option (Ending Nat)) (ids : List Nat) (held : Reply Nat)
    (rest : List (Instr Nat)) (e : Effect Nat) : Prop :=
  ∃ new left, ids = new ++ left ∧ e.shared.acceptances = sh.acceptances ++ new.map (t, ·) ∧
    Feeding left (e.push ++ rest) (e.reply.getD held) (e.ending.orElse fun _ => o)

variable {o : Option (Ending Nat)} {ids : List Nat}

/-- A step by which nothing is accepted. -/
theorem delivers_nothing (hacc : e.shared.acceptances = sh.acceptances)
    (h : Feeding ids (e.push ++ rest) (e.reply.getD held) (e.ending.orElse fun _ => o)) :
    Delivers sh t o ids held rest e :=
  ⟨[], ids, rfl, by simpa using hacc, h⟩

/-- A look at the open queue for a bid. -/
theorem delivers_look {id : Nat} {next : Reply Nat → Script Nat} (hopen : sh.buffer.value.isClosed = false)
    (hcancelled : sh.cancelled = []) (h : Feeds ids (next .unit)) :
    Delivers sh t o (id :: ids) held [.release, .resume .client next] (look u sh t (bidFor id)) := by
  simp only [Buffer.isClosed, Bool.or_eq_false_iff] at hopen
  unfold look
  simp only [Guarded.recovered, hopen.1, hopen.2, Bool.false_eq_true, if_false]
  split
  · refine ⟨[id], ids, rfl, ?_, ?_⟩
    · simp [Note.accepted?, bidFor]
    · refine .accepted (p := [.bump .enqueued 1, .notifyOne .notEmpty, .reply .unit, .release]) ?_ ?_ h
      · simp [isReceipt]
      · simp
  · simp only [bidFor, hcancelled, Option.any_some, List.not_mem_nil, decide_false, Option.any_none,
      Bool.false_eq_true, if_false]
    exact delivers_nothing rfl (.bidding (.inr rfl) h)

/-- A producer of a queue that is open and alive goes on with its part. -/
theorem feeding_of_perform (hpoison : sh.buffer.poisoned = false) (hopen : sh.buffer.value.isClosed = false)
    (hcancelled : sh.cancelled = []) (halive : sh.strong ≠ 0) (h : Feeding ids (i :: rest) held o)
    (he : perform u sh ended t held i = some e) : Delivers sh t o ids held rest e := by
  generalize hst : i :: rest = st at h
  cases h with
  | run hscript =>
    cases hst
    cases hscript with
    | ret ending => cases he; exact delivers_nothing rfl (.ended rfl)
    | ask hsame hscript => cases he; exact delivers_nothing rfl (.asking hsame hscript)
    | add hscript => cases he; exact delivers_nothing rfl (.lifting hscript)
  | asking hsame hscript =>
    cases hst
    cases he
    refine delivers_nothing rfl ?_
    rw [hcancelled]
    exact .asked hsame hscript
  | asked hsame hscript =>
    cases hst
    cases he
    refine delivers_nothing rfl ?_
    rw [hsame]
    exact .run hscript
  | lifting hscript =>
    cases hst
    simp only [perform, halive, if_false, Option.some.injEq] at he
    cases he
    exact delivers_nothing rfl (.bidding (.inl rfl) hscript)
  | @bidding id ids next _ _ i' hi hscript =>
    cases hst
    simp only [Buffer.isClosed, Bool.or_eq_false_iff] at hopen
    rcases hi with rfl | rfl
    · simp only [perform, Guarded.checked, hpoison, hopen.1, Bool.false_eq_true, if_false, Option.some.injEq] at he
      cases he
      exact delivers_look (by simp [Buffer.isClosed, hopen]) hcancelled hscript
    · simp only [perform, Guarded.checked, hpoison, Bool.false_eq_true, if_false, Option.some.injEq] at he
      cases he
      exact delivers_look (by simp [Buffer.isClosed, hopen]) hcancelled hscript
  | @accepted _ next _ _ p hp hr hscript =>
    cases p with
    | nil =>
      cases hst
      cases he
      refine delivers_nothing rfl ?_
      rcases hr with hr | rfl
      · cases hr
      · exact .run hscript
    | cons j p =>
      cases hst
      have hreceipt := hp i List.mem_cons_self
      have hrest : ∀ k ∈ p, isReceipt k = true := fun k hk => hp k (List.mem_cons_of_mem _ hk)
      have hheld : i ≠ .reply .unit → .reply .unit ∈ p ∨ held = .unit := by
        intro hne
        refine hr.imp_left fun hmem => ?_
        rcases List.mem_cons.1 hmem with heq | hmem
        · exact absurd heq.symm hne
        · exact hmem
      cases i with
      | bump c m => cases he; exact delivers_nothing rfl (.accepted hrest (hheld (by simp)) hscript)
      | notifyOne c => cases he; exact delivers_nothing rfl (.accepted hrest (hheld (by simp)) hscript)
      | release => cases he; exact delivers_nothing rfl (.accepted hrest (hheld (by simp)) hscript)
      | reply r =>
        cases r with
        | unit => cases he; exact delivers_nothing rfl (.accepted hrest (.inr rfl) hscript)
        | _ => cases hreceipt
      | _ => cases hreceipt
  | ended => cases hst

end Perform

end Conveyor.Cli.Job
