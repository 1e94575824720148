import Conveyor.Proofs.Queue.Outcome
import Conveyor.Proofs.Queue.Quiescence

/-!
# Reports that come back

Raising an exception calls callbacks, their code may make calls that raise exceptions, and so on. A script comes to its
end after finitely many calls, whatever it gets in reply, and a dispatch calls finitely many callbacks; so a report goes
on for ever only if the code of a callback waits, or nests without bound. `Comes u t Q s` says that thread `t` gets to
`Q` by finitely many steps of its own. What a thread gets through one after the other (`Through`), it gets through as a
whole, so this is shown for one instruction at a time: by how deep callbacks may still nest, and there by the script of
a callback (`through_code`) and by what an instruction leaves to do (`Instr.tier?`, `tier_of_perform`).

* `not_halts_of_errand`: a report itself never waits, so where it does not go on, the code of a callback does not.
* `comes_of_nested`: wherever a report has come to, it comes back, or halts in the code of a callback, or nests deeper
  than any given bound.
-/

namespace Conveyor.Queue

variable {ι : Type}

/-- In no way can thread `t` go on. -/
def State.Halts (u : Setup ι) (s : State ι) (t : ThreadId) : Prop := ∀ sleeper, step u s (.run t sleeper) = none

/-- How many callbacks' code a stack has come to hold above `frame`. -/
def nesting (frame st : List (Instr ι)) : Nat :=
  (st.take (st.length - frame.length)).countP (·.calledFor?.isSome)

theorem nesting_append {frame p : List (Instr ι)} : nesting frame (p ++ frame) = p.countP (·.calledFor?.isSome) := by
  simp [nesting]

/-- Above `frame`, thread `t` can in no way go on with the code of a callback, or has come to nest more than `d`. -/
def State.Strays (u : Setup ι) (s : State ι) (t : ThreadId) (frame : List (Instr ι)) (d : Nat) : Prop :=
  s.Halts u t ∧ 0 < nesting frame (stackAt s.stacks t) ∨ d < nesting frame (stackAt s.stacks t)

/-- Whatever the others do in between, thread `t` gets to `Q` by finitely many steps of its own, and until then it can
take them. -/
inductive Comes (u : Setup ι) (t : ThreadId) (Q : State ι → Prop) : State ι → Prop
  | here {s : State ι} (h : Q s) : Comes u t Q s
  | next {s : State ι}
      (hopen : ∀ {cs s₁}, (∀ c ∈ cs, c.isOf t = false) → execute u s cs = some s₁ → Q s₁ ∨ ¬ s₁.Halts u t)
      (hstep : ∀ {cs s₁ sleeper s₂}, (∀ c ∈ cs, c.isOf t = false) → execute u s cs = some s₁ →
        step u s₁ (.run t sleeper) = some s₂ → Comes u t Q s₂) : Comes u t Q s

section Comes

variable {u : Setup ι} {t : ThreadId} {Q Q' : State ι → Prop} {s s' : State ι}

/-- Who gets to `Q`, and from there to `Q'`, gets to `Q'`. -/
theorem Comes.trans (h : Comes u t Q s) (hr : Reachable u s) (hQ : ∀ {s'}, Reachable u s' → Q s' → Comes u t Q' s') :
    Comes u t Q' s := by
  induction h with
  | here h => exact hQ hr h
  | next hopen _ ih =>
    refine .next (fun hcs he => ?_) fun hcs he hs => ih hcs he hs ((hr.execute he).step hs)
    rcases hopen hcs he with h | h
    · cases hQ (hr.execute he) h with
      | here h' => exact .inl h'
      | next hopen' => exact @hopen' [] _ (by simp) rfl
    · exact .inr h

end Comes

/-! ## What instructions leave to do -/

/-- How far an instruction that a call makes or leaves to do is from leaving nothing; `none` for code, and for what only
workers do. -/
def Instr.tier? : Instr ι → Option Nat
  | .run .. | .resume .. | .take | .retake | .start _ | .finish => none
  | .upgrade call _ => if call.all isEntry then some 5 else none
  | .enter _ | .retry _ => some 4
  | .dispatch _ | .completeAdding | .dispose => some 3
  | .invoke .. | .resolve _ => some 2
  | .publish _ | .takeHandles | .stats | .awaitResult _ => some 1
  | _ => some 0

section Perform

variable {u : Setup ι} {sh : Shared ι} {ended : ThreadId → Bool} {t : ThreadId} {held : Reply ι} {i : Instr ι}
  {e : Effect ι} {n : Nat}

theorem Call.tier_instrs (c : Call ι) (now : Nat) : ∀ j ∈ c.instrs now, ∃ n, j.tier? = some n := by
  cases c with
  | add via x token => cases via <;> simp [Call.instrs, Instr.tier?, Instr.isEntry]
  | tryAdd via x patience => cases via <;> simp [Call.instrs, Instr.tier?, Instr.isEntry]
  | waitTimeout patience => cases patience <;> simp [Call.instrs, Instr.tier?]
  | _ => simp [Call.instrs, Instr.tier?]

theorem Instr.tier_of_isEntry (h : i.isEntry = true) : i.tier? = some 4 := by
  cases i <;> simp_all [isEntry, tier?]

theorem Instr.calledFor?_of_tier (h : i.tier? = some n) : i.calledFor? = none := by
  cases i <;> simp_all [tier?, calledFor?]

theorem tier_look (bid : Bid ι) :
    ∀ j ∈ (look u sh t bid).push, ∃ m, j.tier? = some m ∧ ((look u sh t bid).asleep = none → m < 4) := by
  unfold look
  dsimp only
  repeat' split
  all_goals simp [raise, Instr.tier?]

/-- What a call leaves to do leaves more of its kind, unless it calls a callback; and what does not put its thread to
sleep leaves only what is nearer to leaving nothing. -/
theorem tier_of_perform (hi : i.tier? = some n) (he : perform u sh ended t held i = some e)
    (hno : ∀ c x, i ≠ .invoke c x) : ∀ j ∈ e.push, ∃ m, j.tier? = some m ∧ (e.asleep = none → m < n) := by
  cases i with
  | upgrade call dead =>
    simp only [Instr.tier?] at hi
    split at hi
    · rename_i hcall
      cases hi
      cases call with
      | nil => cases he; simp
      | cons j call =>
        simp only [perform, Option.some.injEq] at he
        split at he
        · cases he; simp
        · cases he
          intro k hk
          rcases List.mem_append.1 hk with hk | hk
          · exact ⟨4, Instr.tier_of_isEntry (List.all_eq_true.1 hcall k hk), fun _ => by omega⟩
          · exact ⟨0, List.mem_singleton.1 hk ▸ rfl, fun _ => by omega⟩
    · cases hi
  | enter bid =>
    cases hi
    simp only [perform] at he
    split at he
    · cases he; simp
    · simp only [Option.some.injEq] at he
      split at he
      · cases he; simp
      · cases he; exact tier_look bid
  | retry bid =>
    cases hi
    simp only [perform] at he
    split at he
    · cases he; simp
    · cases he; exact tier_look bid
  | dispatch x =>
    cases hi
    cases he
    intro j hj
    obtain ⟨c, -, rfl⟩ := List.mem_map.1 hj
    exact ⟨2, rfl, fun _ => by omega⟩
  | invoke c x => exact absurd rfl (hno c x)
  | publish x =>
    cases hi
    cases he
    dsimp only
    split <;> simp [Instr.tier?]
  | resolve drained =>
    cases hi
    simp only [perform, Option.some.injEq] at he
    split at he
    · cases he; simp
    · cases he
      cases drained <;> simp [Instr.tier?]
  | completeAdding =>
    cases hi
    simp only [perform] at he
    split at he
    · cases he; simp
    · simp only [Option.some.injEq] at he
      split at he
      · cases he; simp
      · cases he
        dsimp only
        split <;> split <;> simp [Instr.tier?]
  | dispose =>
    cases hi
    simp only [perform, Option.some.injEq] at he
    split at he
    · cases he; simp
    · cases he; simp [Instr.tier?]
  | takeHandles =>
    cases hi
    cases he
    intro j hj
    rcases List.mem_append.1 hj with hj | hj
    · obtain ⟨w, -, rfl⟩ := List.mem_map.1 hj
      exact ⟨0, rfl, fun _ => by omega⟩
    · exact ⟨0, List.mem_singleton.1 hj ▸ rfl, fun _ => by omega⟩
  | stats => cases hi; cases he; simp [loads, Instr.tier?]
  | join w =>
    simp only [perform] at he
    split at he <;> cases he
    simp
  | pendingCount =>
    simp only [perform] at he
    split at he <;> (cases he; simp)
  | pendingItems =>
    simp only [perform] at he
    split at he
    · cases he; simp
    · simp only [Option.some.injEq] at he
      split at he
      · cases he; simp
      · split at he <;> (cases he; simp)
  | awaitResult d =>
    simp only [perform, Option.some.injEq] at he
    split at he
    · cases he; simp
    · split at he
      · cases he; simp
      · cases he; simp [Instr.tier?]
  | awaitWatch =>
    simp only [perform] at he
    split at he <;> cases he
    simp
  | run => cases hi
  | resume => cases hi
  | take => cases hi
  | retake => cases hi
  | start => cases hi
  | finish => cases hi
  | _ => cases he; simp

/-- What a report and the code of callbacks leave to do. -/
def Instr.isNested (i : Instr ι) : Bool := i.tier?.isSome || i.calledFor?.isSome

theorem Instr.isNested_of_tier (h : i.tier? = some n) : i.isNested = true := by simp [isNested, h]

theorem Instr.isNested_of_isErrand (h : i.isErrand = true) : i.isNested = true := by
  cases i with
  | bump | notifyOne | say | invoke | reply | release | dispatch | publish => rfl
  | _ => cases h

theorem nested_of_perform (hi : i.isNested = true) (he : perform u sh ended t held i = some e) :
    ∀ j ∈ e.push, j.isNested = true := by
  intro j hj
  cases htier : i.tier? with
  | some n =>
    by_cases hinvoke : ∃ c x, i = .invoke c x
    · obtain ⟨c, x, rfl⟩ := hinvoke
      cases he
      rw [List.mem_singleton.1 hj]
      rfl
    · obtain ⟨m, hm, -⟩ := tier_of_perform htier he (fun c x hc => hinvoke ⟨c, x, hc⟩) j hj
      exact Instr.isNested_of_tier hm
  | none =>
    have hcode : i.calledFor?.isSome = true := by simpa [Instr.isNested, htier] using hi
    obtain ⟨x, ⟨script, rfl⟩ | ⟨next, rfl⟩⟩ := Instr.code_of_calledFor hcode
    · cases script with
      | ret ending =>
        cases he
        cases ending with
        | panicked y =>
          rw [List.mem_singleton.1 hj]
          rfl
        | _ => cases hj
      | call c next =>
        cases he
        rcases List.mem_append.1 hj with hj | hj
        · obtain ⟨m, hm⟩ := c.tier_instrs _ j hj
          exact Instr.isNested_of_tier hm
        · rw [List.mem_singleton.1 hj]
          rfl
      | pause label => cases he
    · cases he
      rw [List.mem_singleton.1 hj]
      rfl

theorem Act.nobody_of_asleep (hact : Act u sh t i e) (h : e.asleep ≠ none) : e.wake = .nobody := by
  cases hact <;> simp_all

/-- Neither an errand nor the code of a callback puts its thread to sleep. -/
theorem awake_of_perform (hi : i.isErrand = true ∨ i.calledFor?.isSome = true)
    (he : perform u sh ended t held i = some e) : e.asleep = none := by
  rcases hi with hi | hi
  · cases i with
    | bump | notifyOne | say | invoke | reply | release | dispatch | publish => cases he; rfl
    | _ => cases hi
  · obtain ⟨x, ⟨script, rfl⟩ | ⟨next, rfl⟩⟩ := Instr.code_of_calledFor hi
    · cases script with
      | ret ending =>
        cases he
        cases ending <;> rfl
      | call c next => cases he; rfl
      | pause label => cases he
    · cases he; rfl

end Perform

/-! ## What is nested above a frame -/

section Nested

variable {u : Setup ι} {t : ThreadId} {frame rest : List (Instr ι)} {s s' : State ι} {c : Choice ι} {i : Instr ι}

/-- Above `frame` there is only what a report and the code of callbacks leave to do. -/
def NestedOver (frame st : List (Instr ι)) : Prop := ∃ q, st = q ++ frame ∧ ∀ j ∈ q, j.isNested = true

/-- Until a thread is back at `frame`, no step of its own or of another makes it do anything else above it. -/
theorem nestedOver_of_step (hs : step u s c = some s') (h : NestedOver frame (stackAt s.stacks t))
    (hback : stackAt s.stacks t ≠ frame) : NestedOver frame (stackAt s'.stacks t) := by
  obtain ⟨q, hst, hq⟩ := h
  cases q with
  | nil => exact absurd hst hback
  | cons j q =>
    have hbelow : ∀ k ∈ q, k.isNested = true := fun k hk => hq k (List.mem_cons_of_mem _ hk)
    by_cases hc : c.isOf t = true
    · obtain ⟨i, rest, e, hperf⟩ := performs_of_turn hs hc
      obtain ⟨held, he, -⟩ := hperf.reply
      obtain ⟨rfl, rfl⟩ := List.cons.inj (hperf.before.symm.trans hst)
      refine ⟨e.push ++ q, by rw [List.append_assoc]; exact hperf.after, fun k hk => ?_⟩
      rcases List.mem_append.1 hk with hk | hk
      · exact nested_of_perform (hq i List.mem_cons_self) he k hk
      · exact hbelow k hk
    · rcases stackAt_of_other hs (by simpa using hc) (by simp [hst]) with heq | ⟨role, label, rest, script, heq, heq'⟩
      · exact ⟨j :: q, heq.trans hst, hq⟩
      · -- only the code of a callback is answered
        obtain ⟨rfl, rfl⟩ := List.cons.inj (heq.symm.trans hst)
        refine ⟨.run role script :: q, heq', fun k hk => ?_⟩
        rcases List.mem_cons.1 hk with rfl | hk
        · cases role with
          | callback x => rfl
          | _ => cases hq _ List.mem_cons_self
        · exact hbelow k hk

/-- A report itself never waits. -/
theorem not_halts_of_errand (hr : Reachable u s) (hst : stackAt s.stacks t = i :: rest) (hi : i.isErrand = true) :
    ¬ s.Halts u t := by
  intro hhalts
  cases ht : s.threads[t]? with
  | none =>
    have hended : s.hasEnded t = true := by simp [State.hasEnded, ht]
    rw [State.hasEnded_iff.1 hended] at hst
    cases hst
  | some th =>
    have hth : th.stack = i :: rest := (stackAt_of_getElem? (getElem?_stacks ht)).symm.trans hst
    have hawake : th.asleep = none := by
      by_contra hsleep
      obtain ⟨c, hc⟩ := Option.ne_none_iff_exists'.1 hsleep
      have hlook := hr.willLook th (List.mem_of_getElem? ht) c hc
      rw [hth, List.head?_cons, Option.any_some] at hlook
      cases i with
      | retry | retake | awaitResult => cases hi
      | _ => simp [Instr.rechecks] at hlook
    cases he : perform u s.shared s.hasEnded t th.reply i with
    | none => rcases waits_of_perform he with ⟨role, label, rfl⟩ | ⟨w, rfl, -⟩ | ⟨rfl, -⟩ <;> cases hi
    | some e =>
      obtain ⟨sleeper, s', hs⟩ := step_of_perform ht hawake hth he
      rw [hhalts sleeper] at hs
      cases hs

end Nested

/-! ## Going through one instruction after the other -/

/-- With `n` callbacks still to nest until there are more than `d` above `frame`, thread `t` gets through `p`, or
strays. -/
def Through (u : Setup ι) (t : ThreadId) (frame : List (Instr ι)) (d n : Nat) (p : List (Instr ι)) : Prop :=
  ∀ s rest, Reachable u s → stackAt s.stacks t = p ++ (rest ++ frame) →
    n + rest.countP (·.calledFor?.isSome) = d →
    Comes u t (fun s' => stackAt s'.stacks t = rest ++ frame ∨ s'.Strays u t frame d) s

section Through

variable {u : Setup ι} {t : ThreadId} {frame : List (Instr ι)} {d n : Nat} {p p' : List (Instr ι)} {i : Instr ι}

theorem through_nil : Through u t frame d n [] := fun _ _ _ hst _ => .here (.inl hst)

/-- Where there is more code than there may be, the thread has strayed already. -/
theorem through_of_many (h : n < p.countP (·.calledFor?.isSome)) : Through u t frame d n p := by
  intro s rest hr hst hd
  refine .here (.inr (.inr ?_))
  rw [hst, ← List.append_assoc, nesting_append, List.countP_append]
  omega

/-- One thing after the other; under code of callbacks there is less room for more. -/
theorem Through.append {m : Nat} (hm : m + p'.countP (·.calledFor?.isSome) = n) (h : Through u t frame d m p)
    (h' : Through u t frame d n p') : Through u t frame d n (p ++ p') := by
  intro s rest hr hst hd
  have hfirst := h s (p' ++ rest) hr (by simpa using hst) (by rw [List.countP_append]; omega)
  refine hfirst.trans hr fun hr' hQ => ?_
  rcases hQ with hback | hout
  · exact h' _ _ hr' (by simpa using hback) hd
  · exact .here (.inr hout)

/-- A thread that falls asleep halts. -/
theorem halts_of_asleep {s : State ι} {sleeper : Option ThreadId} {th : Thread ι} {rest : List (Instr ι)}
    {e : Effect ι} {ths : List (Thread ι)} (ht : s.threads[t]? = some th) (hnobody : e.wake = .nobody)
    (hw : wake (s.threads.set t (th.after rest e)) sleeper e.wake = some ths) (hsleep : e.asleep ≠ none) :
    State.Halts u ⟨e.shared, ths⟩ t := by
  intro sleeper'
  have hlt := (List.getElem?_eq_some_iff.1 ht).1
  obtain rfl : s.threads.set t (th.after rest e) = ths := by
    rw [hnobody, wake] at hw
    split at hw <;> cases hw
    rfl
  obtain ⟨c, hc⟩ := Option.ne_none_iff_exists'.1 hsleep
  simp [step, hlt, Thread.after, hc]

/-- Who halts strays, unless it is outside of all callbacks; and there nothing but a report is left to do. -/
theorem strays_of_halts {s : State ι} {rest : List (Instr ι)} (hr : Reachable u s)
    (hst : stackAt s.stacks t = i :: (rest ++ frame))
    (hin : 0 < rest.countP (·.calledFor?.isSome) ∨ (i.isErrand = true ∨ i.calledFor?.isSome = true))
    (hhalts : s.Halts u t) : s.Strays u t frame d := by
  refine .inl ⟨hhalts, ?_⟩
  rw [hst, ← List.cons_append, nesting_append]
  rcases hin with hin | hi | hi
  · exact hin.trans_le (List.Sublist.countP_le (List.sublist_cons_self _ _))
  · exact absurd hhalts (not_halts_of_errand hr hst hi)
  · exact List.countP_pos_iff.2 ⟨i, List.mem_cons_self, hi⟩

/-- Who gets through whatever an instruction leaves to do gets through the instruction. -/
theorem Through.perform (hi : n < d ∨ (i.isErrand = true ∨ i.calledFor?.isSome = true))
    (h : ∀ {sh ended held e}, perform u sh ended t held i = some e → e.asleep = none →
      Through u t frame d n e.push) : Through u t frame d n [i] := by
  intro s rest hr hst hd
  have hin : 0 < rest.countP (·.calledFor?.isSome) ∨ (i.isErrand = true ∨ i.calledFor?.isSome = true) :=
    hi.imp_left fun hlt => by omega
  by_cases hhalts : s.Halts u t
  · exact .here (.inr (strays_of_halts hr hst hin hhalts))
  -- the thread is awake and in no pause, so the others leave it as it is
  obtain ⟨sleeper, hopen⟩ := not_forall.1 hhalts
  obtain ⟨s', hs⟩ := Option.ne_none_iff_exists'.1 hopen
  obtain ⟨th, j, below, e, ths, ht, hawake, hth, he, -, -⟩ := run_of_step hs
  have hpause : th.isPaused = false := by
    cases j with
    | run role script =>
      cases script with
      | pause label => cases he
      | _ => simp [Thread.isPaused, hth]
    | _ => simp [Thread.isPaused, hth]
  have hat : At u (fun _ => True) t th s := ⟨hr, trivial, ht, hawake⟩
  have hthread : ∀ {s₁ : State ι}, s₁.threads[t]? = some th → stackAt s₁.stacks t = i :: (rest ++ frame) := by
    intro s₁ ht₁
    rw [stackAt_of_getElem? (getElem?_stacks ht₁), ← stackAt_of_getElem? (getElem?_stacks ht), hst]
    rfl
  refine .next (fun hcs he₁ => ?_) fun {cs s₁ sleeper₁ s₂} hcs he₁ hs₁ => ?_
  · have h₁ := hat.others (fun _ _ _ => trivial) hpause hcs he₁
    exact (em _).imp (fun hhalts₁ => .inr (strays_of_halts h₁.reachable (hthread h₁.thread) hin hhalts₁)) id
  have h₁ := hat.others (fun _ _ _ => trivial) hpause hcs he₁
  obtain ⟨th₁, j₁, below₁, e₁, ths₁, ht₁, -, hth₁, hperf, hw, rfl⟩ := run_of_step hs₁
  obtain rfl : th₁ = th := Option.some.inj (ht₁.symm.trans h₁.thread)
  have hget := getElem?_stacks ht₁
  obtain ⟨rfl, rfl⟩ : j₁ = i ∧ below₁ = rest ++ frame := by
    rw [← stackAt_of_getElem? hget, hthread ht₁] at hth₁
    exact (List.cons.inj hth₁).imp Eq.symm Eq.symm
  rw [hth₁] at hget
  have hsound : j₁.isSound = true := h₁.reachable.sound.head hget
  have hafter : stackAt (State.stacks ⟨e₁.shared, ths₁⟩) t = e₁.push ++ (rest ++ frame) := by
    have hset := stackAt_set hget (e₁.push ++ (rest ++ frame)) t
    rwa [if_pos rfl, ← stacks_of_wake hw] at hset
  by_cases hsleep : e₁.asleep = none
  · exact h hperf hsleep _ _ (h₁.reachable.step hs₁) hafter hd
  · have hhalts₁ := halts_of_asleep (u := u) ht₁ ((act_of_perform hsound hperf).nobody_of_asleep hsleep) hw hsleep
    refine .here (.inr (.inl ⟨hhalts₁, ?_⟩))
    rw [hafter, ← List.append_assoc, nesting_append, List.countP_append]
    exact Nat.add_pos_right _ (hin.resolve_right fun hcode => hsleep (awake_of_perform hcode hperf))

/-- Who gets through each of some instructions that are no code gets through them all. -/
theorem through_of_forall (hp : ∀ j ∈ p, ∃ m, j.tier? = some m) (h : ∀ j ∈ p, Through u t frame d n [j]) :
    Through u t frame d n p := by
  induction p with
  | nil => exact through_nil
  | cons j p ih =>
    have hnone : p.countP (·.calledFor?.isSome) = 0 := List.countP_eq_zero.2 fun k hk => by
      obtain ⟨m, hm⟩ := hp k (List.mem_cons_of_mem _ hk)
      simp [Instr.calledFor?_of_tier hm]
    have hrest := ih (fun k hk => hp k (List.mem_cons_of_mem _ hk)) fun k hk => h k (List.mem_cons_of_mem _ hk)
    exact (h j List.mem_cons_self).append (by rw [hnone, Nat.add_zero]) hrest

/-- Where a thread gets through the code of callbacks, it gets through all that is no code. -/
theorem through_of_tier {m : Nat} (hcode : ∀ x script, Through u t frame d n [.run (.callback x) script])
    (hin : n < d ∨ i.isErrand = true) (hi : i.tier? = some m) : Through u t frame d n [i] := by
  induction m using Nat.strongRecOn generalizing i with
  | ind m ih =>
    refine .perform (hin.imp_right .inl) fun {sh ended held e} he hawake => ?_
    by_cases hinvoke : ∃ c x, i = .invoke c x
    · obtain ⟨c, x, rfl⟩ := hinvoke
      cases he
      exact hcode x _
    · have hlower := tier_of_perform hi he fun c x hc => hinvoke ⟨c, x, hc⟩
      have htier : ∀ j ∈ e.push, ∃ k, j.tier? = some k := fun j hj => (hlower j hj).imp fun _ h => h.1
      refine through_of_forall htier fun j hj => ?_
      obtain ⟨k, hk, hlt⟩ := hlower j hj
      refine ih k (hlt hawake) (hin.imp_right fun herrand => ?_) hk
      -- an errand leaves errands or code, and this is no code
      rcases (errand_of_perform herrand he).2.2.2.2 with ⟨-, j', hpush, hj'⟩ | hpush
      · obtain rfl : j = j' := List.mem_singleton.1 (hpush ▸ hj)
        rw [Instr.calledFor?_of_tier hk] at hj'
        cases hj'
      · exact (hpush j hj).1

/-- A thread gets through the code of a callback, since its script comes to an end. -/
theorem through_code (hn : n ≤ d) : ∀ x script, Through u t frame d n [.run (.callback x) script] := by
  induction n with
  | zero =>
    -- one callback more is one too many
    exact fun x script => through_of_many (by simp [Instr.calledFor?])
  | succ n ihn =>
    intro x script
    induction script with
    | ret ending =>
      refine .perform (.inr (.inr rfl)) fun he _ => ?_
      cases he
      cases ending with
      | panicked y => exact .perform (.inr (.inl rfl)) fun he _ => by cases he; exact through_nil
      | _ => exact through_nil
    | call c next ih =>
      refine .perform (.inr (.inr rfl)) fun {sh _ _ _} he _ => ?_
      cases he
      have hcall : Through u t frame d n (c.instrs sh.now) := through_of_forall (c.tier_instrs _) fun j hj => by
        obtain ⟨m, hm⟩ := c.tier_instrs _ j hj
        exact through_of_tier (ihn (Nat.le_of_succ_le hn)) (.inl hn) hm
      refine hcall.append rfl (.perform (.inr (.inr rfl)) fun he _ => ?_)
      cases he
      exact ih _
    | pause label => exact .perform (.inr (.inr rfl)) fun he _ => by cases he

/-- A thread gets through all that a report and the code of callbacks leave to do. -/
theorem through_of_nested (hn : n ≤ d) (hp : ∀ j ∈ p, j.isNested = true)
    (hin : n < d ∨ ∀ j ∈ p, j.isErrand = true ∨ j.calledFor?.isSome = true) : Through u t frame d n p := by
  induction p with
  | nil => exact through_nil
  | cons j p ih =>
    by_cases hmany : n < (j :: p).countP (·.calledFor?.isSome)
    · exact through_of_many hmany
    have hroom : p.countP (·.calledFor?.isSome) ≤ n :=
      (List.Sublist.countP_le (List.sublist_cons_self j p)).trans (Nat.le_of_not_lt hmany)
    have hrest : Through u t frame d n p :=
      ih (fun k hk => hp k (List.mem_cons_of_mem _ hk)) (hin.imp_right fun h k hk => h k (List.mem_cons_of_mem _ hk))
    refine Through.append (p := [j]) (Nat.sub_add_cancel hroom) ?_ hrest
    have hless : n - p.countP (·.calledFor?.isSome) ≤ d := (Nat.sub_le _ _).trans hn
    cases htier : j.tier? with
    | some m =>
      refine through_of_tier (through_code hless) (hin.imp (Nat.sub_le _ _).trans_lt fun h => ?_) htier
      refine (h j List.mem_cons_self).resolve_right fun hcode => ?_
      rw [Instr.calledFor?_of_tier htier] at hcode
      cases hcode
    | none =>
      have hcode : j.calledFor?.isSome = true := by simpa [Instr.isNested, htier] using hp j List.mem_cons_self
      obtain ⟨x, ⟨script, rfl⟩ | ⟨next, rfl⟩⟩ := Instr.code_of_calledFor hcode
      · exact through_code hless x script
      · refine .perform (.inr (.inr rfl)) fun he _ => ?_
        cases he
        exact through_code hless x _

/-- A report comes back, with code of a callback on it or not, unless its thread halts in this code or nests callbacks
deeper than `d`, whatever `d` is. -/
theorem comes_of_nested {s : State ι} {q : List (Instr ι)} (hr : Reachable u s)
    (hst : stackAt s.stacks t = q ++ (p ++ frame)) (hq : q = [] ∨ ∃ q' j, q = q' ++ [j] ∧ j.calledFor?.isSome = true)
    (hnested : ∀ j ∈ q, j.isNested = true) (hp : ∀ j ∈ p, j.isErrand = true) (d : Nat) :
    Comes u t (fun s' => stackAt s'.stacks t = frame ∨ s'.Strays u t frame d) s := by
  have hcode : Through u t frame d d q := by
    rcases hq with rfl | ⟨q', j, rfl, hj⟩
    · exact through_nil
    · have hone : [j].countP (·.calledFor?.isSome) = 1 := List.countP_cons_of_pos hj
      have hlast : Through u t frame d d [j] := through_of_nested le_rfl
        (fun k hk => hnested k (List.mem_append_right _ hk)) (.inr fun k hk => .inr (List.mem_singleton.1 hk ▸ hj))
      cases d with
      | zero => exact through_of_many (by rw [List.countP_append]; omega)
      | succ d =>
        refine Through.append (by rw [hone]) (through_of_nested (Nat.le_succ d) ?_ (.inl (Nat.lt_succ_self d))) hlast
        exact fun k hk => hnested k (List.mem_append_left _ hk)
  have hnone : p.countP (·.calledFor?.isSome) = 0 :=
    List.countP_eq_zero.2 fun k hk => by simp [calledFor?_of_isErrand (hp k hk)]
  have hreport : Through u t frame d d p := through_of_nested le_rfl
    (fun k hk => Instr.isNested_of_isErrand (hp k hk)) (.inr fun k hk => .inl (hp k hk))
  have hall : Through u t frame d d (q ++ p) := hcode.append (by rw [hnone, Nat.add_zero]) hreport
  exact hall s [] hr (by simpa using hst) (Nat.add_zero d)

end Through

end Conveyor.Queue
