import Conveyor.Proofs.Queue.Poison
import Conveyor.Proofs.Queue.Verdict

/-!
# What becomes of a call to enqueue

A call looks at the state lock, again and again while others move in between, until a look decides its bid. The thread
then does what the verdict asks of it, calling callbacks that may do anything, and comes back with the reply. `Course`
says how far a call has come; each step keeps that (`Course.step`).

* `one_outcome`: a call that is decided is decided by one look, by what holds there and then, and its own steps after
  that are the errand of the verdict.
-/

namespace Conveyor.Queue

variable {ι : Type}

/-! ## The steps of a thread -/

/-- A step of a thread: the state that it found, and the one that it left. -/
structure Stride (ι : Type) where
  before : State ι
  after : State ι

/-- The steps of thread `t` in a run, earliest first. -/
def strides (u : Setup ι) (t : ThreadId) (s : State ι) : List (Choice ι) → List (Stride ι)
  | [] => []
  | c :: cs =>
    match step u s c with
    | some s' => (if c.isOf t then [⟨s, s'⟩] else []) ++ strides u t s' cs
    | none => []

/-- The last step of a run. -/
theorem strides_concat {u : Setup ι} {t : ThreadId} {s s₁ s' : State ι} {c : Choice ι} {cs : List (Choice ι)}
    (he : execute u s cs = some s₁) (hs : step u s₁ c = some s') :
    strides u t s (cs ++ [c]) = strides u t s cs ++ if c.isOf t then [⟨s₁, s'⟩] else [] := by
  induction cs generalizing s with
  | nil =>
    cases he
    simp [strides, hs]
  | cons c₀ cs ih =>
    rw [execute_cons, Option.bind_eq_some_iff] at he
    obtain ⟨s₀, hs₀, he⟩ := he
    simp only [List.cons_append, strides, hs₀, ih he, List.append_assoc]

/-- Whether a stack that has come to be above `frame` is at code of a callback there. -/
def inCallback (frame st : List (Instr ι)) : Bool :=
  (st.take (st.length - frame.length)).any (·.calledFor?.isSome)

theorem inCallback_append {frame p : List (Instr ι)} : inCallback frame (p ++ frame) = p.any (·.calledFor?.isSome) := by
  simp [inCallback]

/-- The steps that thread `t` takes for what it has above `frame`, and for no callback that this calls. -/
def own (t : ThreadId) (frame : List (Instr ι)) (ms : List (Stride ι)) : List (Stride ι) :=
  ms.filter fun m => !inCallback frame (stackAt m.before.stacks t)

theorem own_append {t : ThreadId} {frame : List (Instr ι)} {ms ms' : List (Stride ι)} :
    own t frame (ms ++ ms') = own t frame ms ++ own t frame ms' := List.filter_append ..

/-- By how much a counter grows in some steps. -/
def growth (c : Counter) (ms : List (Stride ι)) : Nat :=
  load (fun m => m.after.shared.counters.get c - m.before.shared.counters.get c) ms

namespace Instr

/-- By how much an instruction has a counter grow. -/
def gain (c : Counter) : Instr ι → Nat
  | .bump c' n => if c' = c then n else 0
  | _ => 0

/-- Whether the instruction lets others know of a verdict: by the counter, a notification, the callbacks or an event. -/
def isNews : Instr ι → Bool
  | .bump .. | .notifyOne _ | .dispatch _ | .publish _ => true
  | _ => false

/-- Whether the instruction may be what the errand of a verdict takes, or the way back after it. -/
def isErrand : Instr ι → Bool
  | .say _ | .invoke .. | .reply _ | .release => true
  | i => i.isNews

/-- The bid that the instruction may decide, and whether it is the first that may. -/
def glance? : Instr ι → Option (Bid ι × Bool)
  | .upgrade [.enter bid] _ => some (bid, true)
  | .enter bid => some (bid, true)
  | .retry bid => some (bid, false)
  | _ => none

/-- What the instruction decides about its bid: a producer's handle may find no queue, and a look may find a verdict. -/
def ruling? (u : Setup ι) (s : Shared ι) : Instr ι → Option Verdict
  | .upgrade [.enter _] _ => if s.strong = 0 then some .denied else none
  | .enter bid => verdict? u s bid true
  | .retry bid => verdict? u s bid false
  | _ => none

theorem gain_of_isNews {i : Instr ι} (h : i.isNews = false) (c : Counter) : i.gain c = 0 := by
  cases i with
  | bump => cases h
  | _ => rfl

end Instr

namespace Stride

/-- The instruction that thread `t` performs in the step. -/
def instr? (t : ThreadId) (m : Stride ι) : Option (Instr ι) := (stackAt m.before.stacks t).head?

/-- The step changes nothing in the buffer, accepts nothing and raises nothing. -/
structure Quiet (m : Stride ι) : Prop where
  buffer : m.after.shared.buffer = m.before.shared.buffer
  acceptances : m.after.shared.acceptances = m.before.shared.acceptances
  raisings : m.after.shared.raisings = m.before.shared.raisings

/-- The step takes a strong reference for the bid, or looks at the state lock where no verdict holds, and that is
all. -/
structure Vain (u : Setup ι) (t : ThreadId) (bid : Bid ι) (m : Stride ι) : Prop extends m.Quiet where
  counters : m.after.shared.counters = m.before.shared.counters
  look : ∃ i first, m.instr? t = some i ∧ i.glance? = some (bid, first) ∧ i.ruling? u m.before.shared = none ∧
    (i.bid?.isSome = true → ∀ v : Verdict, ¬ v.Holds u m.before.shared bid first)

/-- The step decides the bid: the verdict holds, and no other does. An accepted item comes to be the last in the
buffer; a refused one is why an exception is raised; nothing else changes. -/
structure Decides (u : Setup ι) (t : ThreadId) (bid : Bid ι) (v : Verdict) (m : Stride ι) : Prop where
  look : ∃ i first, m.instr? t = some i ∧ i.glance? = some (bid, first) ∧ i.ruling? u m.before.shared = some v ∧
    ∀ v' : Verdict, v'.Holds u m.before.shared bid first ↔ v' = v
  buffer : m.after.shared.buffer.value =
    if v = .accepted then m.before.shared.buffer.value.push bid.item else m.before.shared.buffer.value
  acceptances : m.after.shared.acceptances =
    m.before.shared.acceptances ++ if v = .accepted then [(t, bid.item)] else []
  raisings : m.after.shared.raisings =
    m.before.shared.raisings ++ if v = .refused then [(t, m.before.shared.refusal u)] else []
  counters : m.after.shared.counters = m.before.shared.counters

end Stride

/-- The call above `frame` was decided in one of the steps `ms`, after others that were in vain. Since then its own steps
have been quiet, and `p` is what is left of the errand of its verdict. -/
inductive Ruled (u : Setup ι) (t : ThreadId) (bid : Bid ι) (frame : List (Instr ι)) (v : Verdict) :
    List (Stride ι) → List (Instr ι) → Prop
  | mk {looks more : List (Stride ι)} {m : Stride ι} {p : List (Instr ι)} (vain : ∀ l ∈ looks, l.Vain u t bid)
      (decides : m.Decides u t bid v) (quiet : ∀ l ∈ own t frame more, l.Quiet)
      (news : ((own t frame more).filterMap (·.instr? t)).filter Instr.isNews ++ p.filter Instr.isNews =
        (v.errand u m.before.shared).filter Instr.isNews)
      (grown : ∀ c, growth c (own t frame more) + load (Instr.gain c) p =
        load (Instr.gain c) (v.errand u m.before.shared)) :
      Ruled u t bid frame v (looks ++ m :: more) p

/-- In none of the states of a run from `s` is thread `t` back at `frame`. -/
def Away (u : Setup ι) (t : ThreadId) (frame : List (Instr ι)) (s : State ι) (cs : List (Choice ι)) : Prop :=
  ∀ cs₁ s', cs₁ <+: cs → execute u s cs₁ = some s' → stackAt s'.stacks t ≠ frame

/-- How far a call that thread `t` has made above `frame` has come, with the steps `ms` so far. -/
inductive Course (u : Setup ι) (t : ThreadId) (bid : Bid ι) (frame : List (Instr ι)) (ms : List (Stride ι))
    (s : State ι) : Prop
  /-- A producer's handle has still to find the queue. -/
  | knocking (hms : ms = []) (hst : stackAt s.stacks t = .upgrade [.enter bid] (.error .disposed) :: frame)
  | looking {i : Instr ι} {tail : List (Instr ι)} (hms : ∀ m ∈ ms, m.Vain u t bid)
      (hst : stackAt s.stacks t = i :: (tail ++ frame)) (hi : i.bid? = some bid) (htail : ∀ j ∈ tail, j = .release)
  /-- The call is decided, and the thread is on the errand, perhaps in code of a callback. -/
  | telling {v : Verdict} {q p tail : List (Instr ι)} (hv : Ruled u t bid frame v ms p)
      (hst : stackAt s.stacks t = q ++ (p ++ (.reply (v.reply bid.trying) :: (tail ++ frame))))
      (hq : q = [] ∨ ∃ q' j, q = q' ++ [j] ∧ j.calledFor?.isSome = true) (hp : ∀ j ∈ p, j.isErrand = true)
      (htail : ∀ j ∈ tail, j = .release)
  | leaving {v : Verdict} {tail : List (Instr ι)} (hv : Ruled u t bid frame v ms [])
      (hst : stackAt s.stacks t = tail ++ frame) (hreply : s.reply? t = some (v.reply bid.trying))
      (htail : ∀ j ∈ tail, j = .release)

/-! ## Errands -/

section Perform

variable {u : Setup ι} {sh : Shared ι} {ended : ThreadId → Bool} {t : ThreadId} {held : Reply ι} {i : Instr ι}
  {e : Effect ι}

/-- The shared state after an event was published. -/
theorem quiet_publish (sh : Shared ι) (t : ThreadId) (hub : Hub) (x : QueueEvent) (ns : List Log.Notice) :
    let sh' := ({ sh with hub := hub }.note t (.published x)).noteAll t (ns.map .said)
    sh'.buffer = sh.buffer ∧ sh'.acceptances = sh.acceptances ∧ sh'.raisings = sh.raisings ∧
      sh'.counters = sh.counters := by
  obtain ⟨hb, hc, -, hj⟩ := Shared.noteAll_spec (Shared.note { sh with hub := hub } t (.published x)) t (ns.map .said)
  rw [Shared.note_journal, ← List.singleton_append, ← List.append_assoc] at hj
  have hnotes : ∀ n ∈ ((ns.map (.said : Log.Notice → Note ι)).map (t, ·)).reverse ++ [(t, .published x)],
      n.2.accepted? = none ∧ n.2.raised? = none := by
    intro n hn
    rcases List.mem_append.1 hn with hn | hn
    · simp only [List.mem_reverse, List.mem_map] at hn
      obtain ⟨_, ⟨k, -, rfl⟩, rfl⟩ := hn
      exact ⟨rfl, rfl⟩
    · rw [List.mem_singleton.1 hn]
      exact ⟨rfl, rfl⟩
  exact ⟨hb, Shared.entries_of_journal hj fun n hn => (hnotes n hn).1,
    Shared.entries_of_journal hj fun n hn => (hnotes n hn).2, hc⟩

/-- What belongs to an errand leaves the buffer alone, accepts and raises nothing, and has the counters grow as it
says. It leaves more of its kind, but no news, or the code of a callback. -/
theorem errand_of_perform (hi : i.isErrand = true) (he : perform u sh ended t held i = some e) :
    e.shared.buffer = sh.buffer ∧ e.shared.acceptances = sh.acceptances ∧ e.shared.raisings = sh.raisings ∧
      (∀ c, e.shared.counters.get c = sh.counters.get c + i.gain c) ∧
      ((i.isNews = false ∧ ∃ j, e.push = [j] ∧ j.calledFor?.isSome = true) ∨
        ∀ j ∈ e.push, j.isErrand = true ∧ j.isNews = false) := by
  cases i with
  | bump c n =>
    cases he
    refine ⟨rfl, rfl, rfl, fun c' => ?_, .inr (by simp)⟩
    simp only [Instr.gain, Counters.get_add]
    split <;> rfl
  | notifyOne c => cases he; exact ⟨rfl, rfl, rfl, fun _ => rfl, .inr (by simp)⟩
  | reply r => cases he; exact ⟨rfl, rfl, rfl, fun _ => rfl, .inr (by simp)⟩
  | release => cases he; exact ⟨rfl, rfl, rfl, fun _ => rfl, .inr (by simp)⟩
  | say n =>
    cases he
    exact ⟨rfl, by simp [Note.accepted?], by simp [Note.raised?], fun _ => rfl, .inr (by simp)⟩
  | dispatch x =>
    cases he
    refine ⟨rfl, rfl, rfl, fun _ => rfl, .inr fun j hj => ?_⟩
    obtain ⟨c, -, rfl⟩ := List.mem_map.1 hj
    exact ⟨rfl, rfl⟩
  | invoke c x =>
    cases he
    exact ⟨rfl, by simp [Note.accepted?], by simp [Note.raised?], fun _ => rfl, .inl ⟨rfl, _, rfl, rfl⟩⟩
  | publish x =>
    cases he
    obtain ⟨hb, ha, hr, hc⟩ := quiet_publish sh t (sh.hub.publish x).1 x (sh.hub.publish x).2.2
    refine ⟨hb, ha, hr, fun c => congrArg (·.get c) hc, .inr ?_⟩
    dsimp only
    split <;> simp [Instr.isErrand, Instr.isNews]
  | _ => cases hi

/-- Code of a callback is run, or waits for the reply to a call. -/
theorem Instr.code_of_calledFor (h : i.calledFor?.isSome = true) :
    ∃ x, (∃ script, i = .run (.callback x) script) ∨ ∃ next, i = .resume (.callback x) next := by
  cases i with
  | run role script =>
    cases role with
    | callback x => exact ⟨x, .inl ⟨script, rfl⟩⟩
    | _ => cases h
  | resume role next =>
    cases role with
    | callback x => exact ⟨x, .inr ⟨next, rfl⟩⟩
    | _ => cases h
  | _ => cases h

/-- Code of a callback goes on above itself, or comes to its end, after which there is at most something to say. -/
theorem callback_of_perform (hi : i.calledFor?.isSome = true) (he : perform u sh ended t held i = some e) :
    (∃ p j, e.push = p ++ [j] ∧ j.calledFor?.isSome = true) ∨ ∀ j ∈ e.push, ∃ n, j = .say n := by
  obtain ⟨x, ⟨script, rfl⟩ | ⟨next, rfl⟩⟩ := Instr.code_of_calledFor hi
  · cases script with
    | ret ending =>
      cases he
      right
      cases ending <;> simp [followUp]
    | call c next => cases he; exact .inl ⟨_, _, rfl, rfl⟩
    | pause label => cases he
  · cases he
    exact .inl ⟨[], _, rfl, rfl⟩

end Perform

/-! ## What is known of a call that was decided -/

section Ruled

variable {u : Setup ι} {t : ThreadId} {bid : Bid ι} {frame : List (Instr ι)} {v : Verdict} {ms : List (Stride ι)}
  {p : List (Instr ι)} {l : Stride ι}

theorem growth_append {c : Counter} {ms ms' : List (Stride ι)} : growth c (ms ++ ms') = growth c ms + growth c ms' :=
  load_append ..

/-- What is no news may be added to what is left of an errand. -/
theorem Ruled.prepend (h : Ruled u t bid frame v ms p) {k : List (Instr ι)} (hk : ∀ j ∈ k, j.isNews = false) :
    Ruled u t bid frame v ms (k ++ p) := by
  obtain ⟨vain, decides, quiet, news, grown⟩ := h
  have hnone : k.filter Instr.isNews = [] := List.filter_eq_nil_iff.2 fun j hj => by simp [hk j hj]
  refine .mk vain decides quiet (by rw [List.filter_append, hnone, List.nil_append, news]) fun c => ?_
  rw [load_append, load_eq_zero fun j hj => Instr.gain_of_isNews (hk j hj) c, Nat.zero_add, grown]

/-- The thread performs what comes next of the errand. -/
theorem Ruled.perform {i : Instr ι} (h : Ruled u t bid frame v ms (i :: p))
    (hown : inCallback frame (stackAt l.before.stacks t) = false) (hi : l.instr? t = some i) (hquiet : l.Quiet)
    (hgain : ∀ c, l.after.shared.counters.get c = l.before.shared.counters.get c + i.gain c) :
    Ruled u t bid frame v (ms ++ [l]) p := by
  obtain @⟨looks, more, m, _, vain, decides, quiet, news, grown⟩ := h
  have hmore : own t frame (more ++ [l]) = own t frame more ++ [l] := by simp [own, hown]
  rw [List.append_assoc, List.cons_append]
  refine .mk vain decides ?_ ?_ fun c => ?_
  · rw [hmore]
    intro k hk
    rcases List.mem_append.1 hk with hk | hk
    · exact quiet k hk
    · exact List.mem_singleton.1 hk ▸ hquiet
  · rw [hmore, List.filterMap_append, List.filter_append, List.append_assoc, ← news]
    congr 1
    cases hn : i.isNews <;> simp [hi, hn]
  · rw [hmore, growth_append, ← grown c, load_cons, Nat.add_assoc]
    congr 1
    simp [growth, hgain]

/-- What a callback does is no part of the errand. -/
theorem Ruled.aside (h : Ruled u t bid frame v ms p) (hin : inCallback frame (stackAt l.before.stacks t) = true) :
    Ruled u t bid frame v (ms ++ [l]) p := by
  obtain @⟨looks, more, m, _, vain, decides, quiet, news, grown⟩ := h
  have hmore : own t frame (more ++ [l]) = own t frame more := by simp [own, hin]
  rw [List.append_assoc, List.cons_append]
  exact .mk vain decides (hmore ▸ quiet) (hmore ▸ news) (hmore ▸ grown)

theorem Stride.Decides.not_vain {m : Stride ι} (h : m.Decides u t bid v) : ¬ m.Vain u t bid := by
  intro hvain
  obtain ⟨i, first, hi, -, hruling, -⟩ := h.look
  obtain ⟨i', first', hi', -, hnone, -⟩ := hvain.look
  rw [hi] at hi'
  cases hi'
  rw [hnone] at hruling
  cases hruling

theorem Stride.Decides.unique {m : Stride ι} {v' : Verdict} (h : m.Decides u t bid v) (h' : m.Decides u t bid v') :
    v' = v := by
  obtain ⟨i, first, hi, -, hruling, -⟩ := h.look
  obtain ⟨i', first', hi', -, hruling', -⟩ := h'.look
  rw [hi] at hi'
  cases hi'
  rw [hruling] at hruling'
  exact (Option.some.inj hruling').symm

theorem Ruled.decided (h : Ruled u t bid frame v ms p) :
    ∃ looks m more, ms = looks ++ m :: more ∧ (∀ l ∈ looks, l.Vain u t bid) ∧ m.Decides u t bid v := by
  obtain ⟨vain, decides⟩ := h
  exact ⟨_, _, _, rfl, vain, decides⟩

/-- The first step that is not in vain decides a call, so one verdict only is given. -/
theorem Ruled.unique {v' : Verdict} {p' : List (Instr ι)} (h : Ruled u t bid frame v ms p)
    (h' : Ruled u t bid frame v' ms p') : v' = v := by
  obtain ⟨looks, m, more, rfl, hvain, hdec⟩ := h.decided
  obtain ⟨looks', m', more', heq, hvain', hdec'⟩ := h'.decided
  rcases List.append_eq_append_iff.1 heq with ⟨a, rfl, ha⟩ | ⟨a, rfl, ha⟩
  · cases a with
    | nil =>
      cases ha
      exact hdec.unique hdec'
    | cons k a =>
      obtain ⟨rfl, -⟩ := List.cons.inj ha
      exact absurd (hvain' m (by simp)) hdec.not_vain
  · cases a with
    | nil =>
      cases ha
      exact hdec.unique hdec'
    | cons k a =>
      obtain ⟨rfl, -⟩ := List.cons.inj ha
      exact absurd (hvain m' (by simp)) hdec'.not_vain

end Ruled

/-! ## What the others do -/

section Others

variable {u : Setup ι} {s s' : State ι} {c : Choice ι} {t : ThreadId}

/-- What the others do leaves the reply alone that a thread holds. -/
theorem reply?_of_other (hs : step u s c = some s') (hc : c.isOf t = false) (hne : stackAt s.stacks t ≠ []) :
    s'.reply? t = s.reply? t := by
  have hset : ∀ {t' : ThreadId} {th th' : Thread ι}, s.threads[t']? = some th → th'.reply = th.reply →
      ((s.threads.set t' th')[t]?).map (·.reply) = (s.threads[t]?).map (·.reply) := fun {t' th th'} ht hreply => by
    by_cases htt : t' = t
    · subst htt
      rw [List.getElem?_set_self (List.getElem?_eq_some_iff.1 ht).1, ht, Option.map_some, Option.map_some, hreply]
    · rw [List.getElem?_set_ne htt]
  cases c with
  | run t' sleeper =>
    have hne : t' ≠ t := Choice.isOf_run.1 hc
    obtain ⟨th, i, rest, e, ths, -, -, -, -, hw, rfl⟩ := run_of_step hs
    rw [reply?_of_wake hw, List.getElem?_set_ne hne, State.reply?]
  | rouse t' =>
    obtain ⟨th, ht, -, rfl⟩ := rouse_of_step hs
    exact hset ht rfl
  | answer t' script =>
    obtain ⟨th, role, label, rest, ht, -, rfl⟩ := answer_of_step hs
    exact hset ht rfl
  | spawn script =>
    cases hs
    have hlt : t < s.threads.length := by
      by_contra hle
      exact hne (by simp [stackAt, State.stacks, Nat.le_of_not_lt hle])
    rw [State.reply?, State.spawn, List.getElem?_append_left hlt]
    rfl
  | _ => cases hs; rfl

/-- What the others do, and answers, leave a stack alone, but for code that is in a pause. -/
theorem stackAt_of_other (hs : step u s c = some s') (hc : c.isOf t = false) (hne : stackAt s.stacks t ≠ []) :
    stackAt s'.stacks t = stackAt s.stacks t ∨
      ∃ role label rest script, stackAt s.stacks t = .run role (.pause label) :: rest ∧
        stackAt s'.stacks t = .run role script :: rest := by
  rcases stackAt_of_step hs t with ⟨_, _, _, _, _, _, rfl, -⟩ | ⟨-, hpause | ⟨_, -, hnil, -⟩ | hst⟩
  · simp [Choice.isOf] at hc
  · exact .inr hpause
  · exact absurd hnil hne
  · exact .inl hst

/-- Above the code of a callback, the others leave all as it is, but that they may answer the code. -/
theorem code_of_other {q rest : List (Instr ι)} (hs : step u s c = some s') (hc : c.isOf t = false)
    (hq : ∃ q' j, q = q' ++ [j] ∧ j.calledFor?.isSome = true) (hst : stackAt s.stacks t = q ++ rest) :
    ∃ q', stackAt s'.stacks t = q' ++ rest ∧ ∃ q₁ j, q' = q₁ ++ [j] ∧ j.calledFor?.isSome = true := by
  obtain ⟨q₁, j, rfl, hj⟩ := hq
  rcases stackAt_of_other hs hc (by simp [hst]) with heq | ⟨role, label, below, script, heq, heq'⟩
  · exact ⟨_, heq.trans hst, q₁, j, rfl, hj⟩
  · rw [hst] at heq
    cases q₁ with
    | nil =>
      obtain ⟨rfl, rfl⟩ := List.cons.inj heq
      refine ⟨[.run role script], heq', [], _, rfl, ?_⟩
      cases role with
      | callback => rfl
      | _ => cases hj
    | cons k q₁ =>
      obtain ⟨rfl, rfl⟩ := List.cons.inj heq
      exact ⟨.run role script :: (q₁ ++ [j]), heq', .run role script :: q₁, j, rfl, hj⟩

end Others

/-! ## How far a call has come -/

section Course

variable {u : Setup ι} {s s' : State ι} {c : Choice ι} {t : ThreadId} {bid : Bid ι} {frame : List (Instr ι)}
  {ms : List (Stride ι)}

/-- A call stays where it is while the others move. -/
theorem Course.other (h : Course u t bid frame ms s) (hs : step u s c = some s') (hc : c.isOf t = false)
    (hne : stackAt s.stacks t ≠ []) (hback : stackAt s.stacks t ≠ frame) : Course u t bid frame ms s' := by
  have hreply' := reply?_of_other hs hc hne
  -- only code that is in a pause could change
  have hsame : (∀ role label rest, stackAt s.stacks t ≠ .run role (.pause label) :: rest) →
      stackAt s'.stacks t = stackAt s.stacks t := fun hno => by
    rcases stackAt_of_other hs hc hne with hst | ⟨role, label, rest, script, hst, -⟩
    · exact hst
    · exact absurd hst (hno role label rest)
  cases h with
  | knocking hms hst => exact .knocking hms ((hsame (by simp [hst])).trans hst)
  | looking hms hst hi htail =>
    refine .looking hms ((hsame fun role label rest heq => ?_).trans hst) hi htail
    rw [hst] at heq
    cases heq
    cases hi
  | @telling v q p tail hv hst hq hp htail =>
    cases q with
    | nil =>
      refine .telling (q := []) hv ((hsame fun role label rest heq => ?_).trans hst) hq hp htail
      rw [hst] at heq
      cases p with
      | nil => cases heq
      | cons j p =>
        cases heq
        cases hp _ List.mem_cons_self
    | cons j q =>
      obtain ⟨q', hst', hq'⟩ := code_of_other hs hc (hq.resolve_left (List.cons_ne_nil _ _)) hst
      exact .telling hv hst' (.inr hq') hp htail
  | @leaving v tail hv hst hreply htail =>
    refine .leaving hv ((hsame fun role label rest heq => ?_).trans hst) (hreply'.trans hreply) htail
    cases tail with
    | nil => exact hback hst
    | cons j tail =>
      rw [hst] at heq
      obtain ⟨rfl, -⟩ := List.cons.inj heq
      cases htail _ List.mem_cons_self

/-- What thread `t` performs in a step, at the top of its stack: the step changes the shared state and the thread by
what `perform` says. -/
structure Performs (u : Setup ι) (t : ThreadId) (i : Instr ι) (rest : List (Instr ι)) (e : Effect ι) (l : Stride ι) :
    Prop where
  before : stackAt l.before.stacks t = i :: rest
  after : stackAt l.after.stacks t = e.push ++ rest
  shared : l.after.shared = e.shared
  reply : ∃ held, perform u l.before.shared l.before.hasEnded t held i = some e ∧ l.before.reply? t = some held ∧
    l.after.reply? t = some (e.reply.getD held)

theorem performs_of_step {sleeper : Option ThreadId} (hs : step u s (.run t sleeper) = some s') :
    ∃ i rest e, Performs u t i rest e ⟨s, s'⟩ := by
  obtain ⟨th, i, rest, e, ths, ht, -, hst, he, hw, rfl⟩ := run_of_step hs
  have hget : s.stacks[t]? = some (i :: rest) := by rw [getElem?_stacks ht, hst]
  refine ⟨i, rest, e, stackAt_of_getElem? hget, ?_, rfl, th.reply, he, by rw [State.reply?, ht]; rfl, ?_⟩
  · have hset := stackAt_set hget (e.push ++ rest) t
    rwa [if_pos rfl, ← stacks_of_wake hw] at hset
  · rw [reply?_of_wake hw, List.getElem?_set_self (List.getElem?_eq_some_iff.1 ht).1]
    rfl

theorem performs_of_turn (hs : step u s c = some s') (hc : c.isOf t = true) :
    ∃ i rest e, Performs u t i rest e ⟨s, s'⟩ := by
  cases c with
  | run t' sleeper =>
    obtain rfl : t' = t := by simpa [Choice.isOf] using hc
    exact performs_of_step hs
  | _ => cases hc

section Turn

variable {i : Instr ι} {rest : List (Instr ι)} {e : Effect ι} {v : Verdict}

theorem Performs.instr? {l : Stride ι} (hp : Performs u t i rest e l) : l.instr? t = some i := by
  rw [Stride.instr?, hp.before]
  rfl

/-- A step decides a bid if a ruling is found and carried out in it. -/
theorem Stride.Decides.of_ruling {l : Stride ι} {first : Bool} (hi : l.instr? t = some i)
    (hg : i.glance? = some (bid, first)) (hr : i.ruling? u l.before.shared = some v) (hv : verdict? u l.before.shared bid first = some v)
    (hshared : l.after.shared = v.settle u l.before.shared t bid) : l.Decides u t bid v := by
  have hlook := holds_iff hv
  cases v <;>
    exact ⟨⟨i, first, hi, hg, hr, hlook⟩, by simp [hshared, Verdict.settle],
      by simp [hshared, Verdict.settle, Note.accepted?], by simp [hshared, Verdict.settle, Note.raised?],
      by rw [hshared]; rfl⟩

/-- A step is in vain if no ruling is found in it, and but for the strong references nothing changes. -/
theorem Stride.Vain.of_ruling {l : Stride ι} {first : Bool} {n : Nat} (hi : l.instr? t = some i)
    (hg : i.glance? = some (bid, first)) (hr : i.ruling? u l.before.shared = none)
    (hv : i.bid?.isSome = true → verdict? u l.before.shared bid first = none)
    (hshared : l.after.shared = { l.before.shared with strong := n }) : l.Vain u t bid :=
  ⟨⟨by rw [hshared], by rw [hshared]; rfl, by rw [hshared]; rfl⟩, by rw [hshared],
    ⟨i, first, hi, hg, hr, fun hbid => verdict?_eq_none.1 (hv hbid)⟩⟩

/-- The step that decides a call begins what is known of it. -/
theorem Ruled.begin (hms : ∀ m ∈ ms, m.Vain u t bid) {l : Stride ι} (hl : l.Decides u t bid v) :
    Ruled u t bid frame v (ms ++ [l]) (v.errand u l.before.shared) := by
  have hnone : own t frame ([] : List (Stride ι)) = [] := rfl
  refine .mk hms hl ?_ ?_ fun c => ?_
  · simp [hnone]
  · simp [hnone]
  · rw [hnone, growth, load_nil, Nat.zero_add]

/-- A producer's handle finds the queue, or that there is none. -/
theorem Course.knock (hr : Reachable u s)
    (hp : Performs u t (.upgrade [.enter bid] (.error .disposed)) frame e ⟨s, s'⟩) :
    Course u t bid frame [⟨s, s'⟩] s' := by
  obtain ⟨held, he, -, hreply⟩ := hp.reply
  simp only [perform, Option.some.injEq] at he
  have hafter := hp.after
  have hshared := hp.shared
  by_cases hdead : s.shared.strong = 0
  · rw [if_pos hdead] at he
    subst he
    have hl : Stride.Decides u t bid .denied ⟨s, s'⟩ :=
      .of_ruling hp.instr? rfl (by simp [Instr.ruling?, hdead]) (by simp [verdict?, hr.disposed_of_dead hdead]) hshared
    have hms : ∀ m ∈ ([] : List (Stride ι)), m.Vain u t bid := fun m hm => by cases hm
    have hruled : Ruled u t bid frame .denied [⟨s, s'⟩] [] := Ruled.begin hms hl
    have hst : stackAt s'.stacks t = [] ++ frame := hafter
    exact .leaving hruled hst hreply (by simp)
  · rw [if_neg hdead] at he
    subst he
    have hl : Stride.Vain u t bid ⟨s, s'⟩ :=
      .of_ruling hp.instr? rfl (by simp [Instr.ruling?, hdead]) (by simp [Instr.bid?]) hshared
    have hst : stackAt s'.stacks t = .enter bid :: ([.release] ++ frame) := hafter
    exact .looking (by simpa using hl) hst rfl (by simp)

theorem glance?_of_bid (hi : i.bid? = some bid) : i.glance? = some (bid, i.isEntry) := by
  cases i <;> cases hi <;> rfl

theorem ruling?_of_bid {sh : Shared ι} (hi : i.bid? = some bid) : i.ruling? u sh = verdict? u sh bid i.isEntry := by
  cases i <;> cases hi <;> rfl

theorem isErrand_errand {sh : Shared ι} : ∀ j ∈ v.errand u sh, j.isErrand = true := by
  cases v <;> simp [Verdict.errand, raise, Instr.isErrand, Instr.isNews]

/-- A look decides the call, or the thread waits for another. -/
theorem Course.look {tail : List (Instr ι)} (hms : ∀ m ∈ ms, m.Vain u t bid)
    (hp : Performs u t i (tail ++ frame) e ⟨s, s'⟩) (hi : i.bid? = some bid) (htail : ∀ j ∈ tail, j = .release)
    (hsound : s.shared.buffer.poisoned = false) : Course u t bid frame (ms ++ [⟨s, s'⟩]) s' := by
  obtain ⟨held, he, -, hreply⟩ := hp.reply
  have hafter := hp.after
  have hshared := hp.shared
  cases hv : verdict? u s.shared bid i.isEntry with
  | none =>
    obtain rfl := Option.some.inj (he.symm.trans (perform_vain hi hsound hv))
    have hl : Stride.Vain u t bid ⟨s, s'⟩ :=
      .of_ruling hp.instr? (glance?_of_bid hi) ((ruling?_of_bid hi).trans hv) (fun _ => hv) hshared
    refine .looking (i := .retry bid) (fun m hm => ?_) hafter rfl htail
    rcases List.mem_append.1 hm with hm | hm
    · exact hms m hm
    · exact List.mem_singleton.1 hm ▸ hl
  | some v =>
    obtain rfl := Option.some.inj (he.symm.trans (perform_decided hi hsound hv))
    have hl : Stride.Decides u t bid v ⟨s, s'⟩ :=
      .of_ruling hp.instr? (glance?_of_bid hi) ((ruling?_of_bid hi).trans hv) hv hshared
    have hruled : Ruled u t bid frame v _ _ := Ruled.begin hms hl
    by_cases herrand : v.errand u s.shared = []
    · simp only [Verdict.effect, herrand, if_true] at hafter hreply
      exact .leaving (herrand ▸ hruled) hafter hreply htail
    · simp only [Verdict.effect, herrand, if_false] at hafter
      exact .telling (q := []) hruled (by simpa using hafter) (.inl rfl) isErrand_errand htail

theorem calledFor?_of_isErrand (hi : i.isErrand = true) : i.calledFor?.isSome = false := by
  cases i with
  | run => cases hi
  | resume => cases hi
  | _ => rfl

/-- What a step on the errand of a verdict is by itself. -/
theorem Performs.errand {l : Stride ι} (hp : Performs u t i rest e l) (hi : i.isErrand = true) :
    l.Quiet ∧ (∀ c, l.after.shared.counters.get c = l.before.shared.counters.get c + i.gain c) ∧
      ((i.isNews = false ∧ ∃ j, e.push = [j] ∧ j.calledFor?.isSome = true) ∨
        ∀ j ∈ e.push, j.isErrand = true ∧ j.isNews = false) := by
  obtain ⟨held, he, -⟩ := hp.reply
  obtain ⟨hb, ha, hr, hc, hpush⟩ := errand_of_perform hi he
  exact ⟨⟨by rw [hp.shared, hb], by rw [hp.shared, ha], by rw [hp.shared, hr]⟩, by rw [hp.shared]; exact hc, hpush⟩

/-- With nothing but an errand above `frame`, the thread is in no callback. -/
theorem not_inCallback {p : List (Instr ι)} (hp : ∀ j ∈ p, j.isErrand = true) :
    inCallback frame (p ++ frame) = false := by
  rw [inCallback_append, List.any_eq_false]
  intro j hj
  rw [calledFor?_of_isErrand (hp j hj)]
  exact Bool.false_ne_true

/-- The thread goes on with its errand. -/
theorem Course.tell {p tail : List (Instr ι)} (hv : Ruled u t bid frame v ms (i :: p))
    (hp : Performs u t i (p ++ (.reply (v.reply bid.trying) :: (tail ++ frame))) e ⟨s, s'⟩)
    (hi : i.isErrand = true) (hrest : ∀ j ∈ p, j.isErrand = true) (htail : ∀ j ∈ tail, j = .release) :
    Course u t bid frame (ms ++ [⟨s, s'⟩]) s' := by
  obtain ⟨hquiet, hgain, hpush⟩ := hp.errand hi
  have hown : inCallback frame (stackAt s.stacks t) = false := by
    have hst : stackAt s.stacks t = (i :: p ++ .reply (v.reply bid.trying) :: tail) ++ frame := by
      rw [hp.before]
      simp
    rw [hst]
    refine not_inCallback fun j hj => ?_
    rcases List.mem_append.1 hj with hj | hj
    · rcases List.mem_cons.1 hj with rfl | hj
      · exact hi
      · exact hrest j hj
    · rcases List.mem_cons.1 hj with rfl | hj
      · rfl
      · exact htail j hj ▸ rfl
  have hruled := hv.perform hown hp.instr? hquiet hgain
  rcases hpush with ⟨-, j, hpush, hj⟩ | hpush
  · exact .telling (q := [j]) hruled (by rw [hp.after, hpush]) (.inr ⟨[], j, rfl, hj⟩) hrest htail
  · refine .telling (q := []) (hruled.prepend fun j hj => (hpush j hj).2) (by rw [hp.after]; simp) (.inl rfl)
      (fun j hj => ?_) htail
    rcases List.mem_append.1 hj with hj | hj
    · exact (hpush j hj).1
    · exact hrest j hj

/-- The thread is done with its errand and takes the reply, or lets go of its strong reference after that. -/
theorem Course.leave {tail : List (Instr ι)} (hv : Ruled u t bid frame v ms [])
    (hp : Performs u t i (tail ++ frame) e ⟨s, s'⟩)
    (hi : i = .reply (v.reply bid.trying) ∨ i = .release ∧ s.reply? t = some (v.reply bid.trying))
    (htail : ∀ j ∈ tail, j = .release) : Course u t bid frame (ms ++ [⟨s, s'⟩]) s' := by
  have herrand : i.isErrand = true := by rcases hi with rfl | ⟨rfl, -⟩ <;> rfl
  have hnews : i.isNews = false := by rcases hi with rfl | ⟨rfl, -⟩ <;> rfl
  obtain ⟨hquiet, hgain, -⟩ := hp.errand herrand
  have hown : inCallback frame (stackAt s.stacks t) = false := by
    have hst : stackAt s.stacks t = (i :: tail) ++ frame := hp.before
    rw [hst]
    refine not_inCallback fun j hj => ?_
    rcases List.mem_cons.1 hj with rfl | hj
    · exact herrand
    · exact htail j hj ▸ rfl
  have hruled := (hv.prepend (k := [i]) (by simpa using hnews)).perform hown hp.instr? hquiet hgain
  have hafter := hp.after
  obtain ⟨held, he, hheld, hreply⟩ := hp.reply
  rcases hi with rfl | ⟨rfl, hold⟩
  · cases he
    exact .leaving hruled hafter hreply htail
  · cases he
    exact .leaving hruled hafter (hreply.trans (hheld.symm.trans hold)) htail

/-- A step above the code of a callback: the code goes on, or comes to its end with at most something to say. -/
theorem Performs.code {l : Stride ι} {q : List (Instr ι)} (hp : Performs u t i (q ++ rest) e l)
    (hq : ∃ q' j, i :: q = q' ++ [j] ∧ j.calledFor?.isSome = true) :
    (∃ q', stackAt l.after.stacks t = q' ++ rest ∧ ∃ q₁ j, q' = q₁ ++ [j] ∧ j.calledFor?.isSome = true) ∨
      ∃ k, stackAt l.after.stacks t = k ++ rest ∧ ∀ j ∈ k, ∃ n, j = .say n := by
  obtain ⟨q', j, hq, hj⟩ := hq
  have hafter := hp.after
  cases q' with
  | nil =>
    obtain ⟨rfl, rfl⟩ := List.cons.inj hq
    obtain ⟨held, he, -⟩ := hp.reply
    rcases callback_of_perform hj he with hpush | hpush
    · exact .inl ⟨_, hafter, hpush⟩
    · exact .inr ⟨_, hafter, hpush⟩
  | cons k q' =>
    obtain ⟨rfl, rfl⟩ := List.cons.inj hq
    exact .inl ⟨e.push ++ (q' ++ [j]), by rw [hafter]; simp, e.push ++ q', j, by simp, hj⟩

theorem inCallback_of_code {q p : List (Instr ι)} (hq : ∃ q' j, q = q' ++ [j] ∧ j.calledFor?.isSome = true) :
    inCallback frame (q ++ (p ++ frame)) = true := by
  obtain ⟨q', j, rfl, hj⟩ := hq
  rw [← List.append_assoc, inCallback_append]
  simp [hj]

/-- The thread goes on in the code of a callback. -/
theorem Course.nest {q p tail : List (Instr ι)} (hv : Ruled u t bid frame v ms p)
    (hp : Performs u t i (q ++ (p ++ (.reply (v.reply bid.trying) :: (tail ++ frame)))) e ⟨s, s'⟩)
    (hq : ∃ q' j, i :: q = q' ++ [j] ∧ j.calledFor?.isSome = true) (hrest : ∀ j ∈ p, j.isErrand = true)
    (htail : ∀ j ∈ tail, j = .release) : Course u t bid frame (ms ++ [⟨s, s'⟩]) s' := by
  have hin : inCallback frame (stackAt s.stacks t) = true := by
    have hst : stackAt s.stacks t = (i :: q) ++ ((p ++ .reply (v.reply bid.trying) :: tail) ++ frame) := by
      rw [hp.before]
      simp
    rw [hst]
    exact inCallback_of_code hq
  have hruled := hv.aside (l := ⟨s, s'⟩) hin
  rcases hp.code hq with ⟨q', hafter, hq'⟩ | ⟨k, hafter, hk⟩
  · exact .telling hruled hafter (.inr hq') hrest htail
  · have hsay : ∀ j ∈ k, j.isErrand = true ∧ j.isNews = false := fun j hj => by
      obtain ⟨n, rfl⟩ := hk j hj
      exact ⟨rfl, rfl⟩
    refine .telling (q := []) (hruled.prepend fun j hj => (hsay j hj).2) (by rw [hafter]; simp) (.inl rfl)
      (fun j hj => ?_) htail
    rcases List.mem_append.1 hj with hj | hj
    · exact (hsay j hj).1
    · exact hrest j hj

/-- A step of the thread itself brings its call on. -/
theorem Course.turn (h : Course u t bid frame ms s) (hr : Reachable u s) (hp : Performs u t i rest e ⟨s, s'⟩)
    (hsound : s.shared.buffer.poisoned = false) (hback : stackAt s.stacks t ≠ frame) :
    Course u t bid frame (ms ++ [⟨s, s'⟩]) s' := by
  have hbefore : stackAt s.stacks t = i :: rest := hp.before
  cases h with
  | knocking hms hst =>
    obtain ⟨rfl, rfl⟩ := List.cons.inj (hbefore.symm.trans hst)
    subst hms
    exact .knock hr hp
  | looking hms hst hi htail =>
    obtain ⟨rfl, rfl⟩ := List.cons.inj (hbefore.symm.trans hst)
    exact .look hms hp hi htail hsound
  | @telling v q p tail hv hst hq hrest htail =>
    cases q with
    | nil =>
      cases p with
      | nil =>
        obtain ⟨rfl, rfl⟩ := List.cons.inj (hbefore.symm.trans hst)
        exact .leave hv hp (.inl rfl) htail
      | cons j p =>
        obtain ⟨rfl, rfl⟩ := List.cons.inj (hbefore.symm.trans hst)
        exact .tell hv hp (hrest i List.mem_cons_self) (fun k hk => hrest k (List.mem_cons_of_mem _ hk)) htail
    | cons j q =>
      obtain ⟨rfl, rfl⟩ := List.cons.inj (hbefore.symm.trans hst)
      rcases hq with hq | hq
      · cases hq
      · exact .nest hv hp hq hrest htail
  | @leaving v tail hv hst hreply htail =>
    cases tail with
    | nil => exact absurd hst hback
    | cons j tail =>
      obtain ⟨rfl, rfl⟩ := List.cons.inj (hbefore.symm.trans hst)
      exact .leave hv hp (.inr ⟨htail i List.mem_cons_self, hreply⟩) fun k hk => htail k (List.mem_cons_of_mem _ hk)

end Turn

/-- One step of a run brings a call on, or leaves it where it is. -/
theorem Course.step (h : Course u t bid frame ms s) (hr : Reachable u s) (hs : Queue.step u s c = some s')
    (hsound : s.shared.buffer.poisoned = false) (hframe : frame ≠ []) (hback : stackAt s.stacks t ≠ frame) :
    Course u t bid frame (ms ++ if c.isOf t then [⟨s, s'⟩] else []) s' := by
  by_cases hc : c.isOf t = true
  · obtain ⟨i, rest, e, hp⟩ := performs_of_turn hs hc
    rw [if_pos hc]
    exact h.turn hr hp hsound hback
  · have hne : stackAt s.stacks t ≠ [] := fun hnil => by
      cases h with
      | leaving _ hst => exact hframe (List.append_eq_nil_iff.1 (hst.symm.trans hnil)).2
      | _ => simp_all
    rw [if_neg hc, List.append_nil]
    exact h.other hs (by simpa using hc) hne hback

/-- What each step of a run keeps as long as the thread is not back at `frame` holds at the end of the run, or up to
where the thread is back. -/
theorem away_or_back {P : List (Choice ι) → State ι → Prop} {cs : List (Choice ι)} {s₁ : State ι}
    (start : P [] s₁) (hout : stackAt s₁.stacks t ≠ frame) (he : Queue.execute u s₁ cs = some s)
    (keep : ∀ {cs₀ s₀ c s'}, cs₀ <+: cs → Queue.execute u s₁ cs₀ = some s₀ → Queue.step u s₀ c = some s' →
      stackAt s₀.stacks t ≠ frame → P cs₀ s₀ → P (cs₀ ++ [c]) s') :
    Away u t frame s₁ cs ∧ P cs s ∨
      ∃ cs₁ c cs₂ s', cs = cs₁ ++ c :: cs₂ ∧ Away u t frame s₁ cs₁ ∧
        Queue.execute u s₁ (cs₁ ++ [c]) = some s' ∧ stackAt s'.stacks t = frame ∧ P (cs₁ ++ [c]) s' := by
  induction cs using List.reverseRecOn generalizing s with
  | nil =>
    cases he
    refine .inl ⟨fun cs₁ s' hpre he => ?_, start⟩
    obtain rfl := List.prefix_nil.1 hpre
    cases he
    exact hout
  | append_singleton cs c ih =>
    obtain ⟨s₀, he₀, hs⟩ := execute_concat.1 he
    have hinit : cs <+: cs ++ [c] := List.prefix_append ..
    rcases ih he₀ fun hpre => keep (hpre.trans hinit) with ⟨haway, hP⟩ | ⟨cs₁, c₁, cs₂, s', rfl, hrest⟩
    · have hnext := keep hinit he₀ hs (haway cs s₀ (List.prefix_refl cs) he₀) hP
      by_cases hback : stackAt s.stacks t = frame
      · exact .inr ⟨cs, c, [], s, rfl, haway, he, hback, hnext⟩
      · refine .inl ⟨fun cs₁ s' hpre he' => ?_, hnext⟩
        rcases List.prefix_concat_iff.1 hpre with rfl | hpre
        · obtain rfl := Option.some.inj (he.symm.trans he')
          exact hback
        · exact haway cs₁ s' hpre he'
    · exact .inr ⟨cs₁, c₁, cs₂ ++ [c], s', by simp, hrest⟩

/-- In a run, a call comes on to the end of the run, or up to where it is back. -/
theorem Course.execute {cs : List (Choice ι)} {s₁ : State ι} (h : Course u t bid frame [] s₁) (hr : Reachable u s₁)
    (he : Queue.execute u s₁ cs = some s) (hsound : s.shared.buffer.poisoned = false) (hframe : frame ≠ [])
    (hout : stackAt s₁.stacks t ≠ frame) :
    Away u t frame s₁ cs ∧ Course u t bid frame (strides u t s₁ cs) s ∨
      ∃ cs₁ c cs₂ s', cs = cs₁ ++ c :: cs₂ ∧ Away u t frame s₁ cs₁ ∧ Queue.execute u s₁ (cs₁ ++ [c]) = some s' ∧
        stackAt s'.stacks t = frame ∧ Course u t bid frame (strides u t s₁ (cs₁ ++ [c])) s' := by
  refine away_or_back (P := fun cs s => Course u t bid frame (strides u t s₁ cs) s) h hout he
    fun {cs₀ s₀ c s'} hpre he₀ hs hback hcourse => ?_
  -- the lock is sound now because it is sound in the end
  have hsound₀ : s₀.shared.buffer.poisoned = false := by
    obtain ⟨cs₁, rfl⟩ := hpre
    rw [execute_append, he₀, Option.bind_some] at he
    by_contra hp
    rw [poisoned_of_execute he (Bool.eq_true_of_not_eq_false hp)] at hsound
    cases hsound
  rw [strides_concat he₀ hs]
  exact hcourse.step (hr.execute he₀) hs hsound₀ hframe hback

end Course

/-! ## Calls -/

/-- The bid of a call to enqueue that is made at time `now`. -/
def Call.bid? (now : Nat) : Call ι → Option (Bid ι)
  | .add _ x token => some ⟨x, false, none, token⟩
  | .tryAdd _ x none => some ⟨x, true, some now, none⟩
  | .tryAdd _ x (some (.ms n)) => some ⟨x, true, some (now + n), none⟩
  | .tryAdd _ x (some .forever) => some ⟨x, true, none, none⟩
  | _ => none

/-- A call that thread `t` has made above `frame` is back with a verdict: of its steps `ms`, one has decided it, after
others that were in vain, and its own steps since have been quiet, have let others know of the verdict in full, and
have had no counter grow but by one that of the verdict. -/
structure Outcome (u : Setup ι) (t : ThreadId) (bid : Bid ι) (frame : List (Instr ι)) (ms : List (Stride ι))
    (s : State ι) (v : Verdict) : Prop where
  ruled : Ruled u t bid frame v ms []
  reply : s.reply? t = some (v.reply bid.trying)
  grown : ∀ c, growth c (own t frame ms) =
    if v = .accepted ∧ c = .enqueued ∨ v = .refused ∧ c = .rejected then 1 else 0

section Calls

variable {u : Setup ι} {t : ThreadId} {bid : Bid ι} {frame : List (Instr ι)} {v : Verdict} {ms : List (Stride ι)}
  {s : State ι}

theorem Call.instrs_of_bid {c : Call ι} {now : Nat} (h : c.bid? now = some bid) :
    c.instrs now = [.enter bid] ∨ c.instrs now = [.upgrade [.enter bid] (.error .disposed)] := by
  cases c with
  | add via x token =>
    cases h
    cases via
    · exact .inl rfl
    · exact .inr rfl
  | tryAdd via x patience =>
    cases via with
    | owner => left; rcases patience with _ | ⟨n⟩ | _ <;> cases h <;> rfl
    | producer => right; rcases patience with _ | ⟨n⟩ | _ <;> cases h <;> rfl
  | _ => cases h

theorem growth_eq_zero {c : Counter} (h : ∀ l ∈ ms, l.after.shared.counters = l.before.shared.counters) :
    growth c ms = 0 :=
  load_eq_zero fun l hl => by rw [h l hl, Nat.sub_self]

theorem load_gain_errand {sh : Shared ι} (v : Verdict) (c : Counter) :
    load (Instr.gain c) (v.errand u sh) =
      if v = .accepted ∧ c = .enqueued ∨ v = .refused ∧ c = .rejected then 1 else 0 := by
  cases v <;> cases c <;> rfl

/-- How much the counters grow in the whole of a call. -/
theorem Ruled.grown_all (h : Ruled u t bid frame v ms []) (c : Counter) :
    growth c (own t frame ms) = if v = .accepted ∧ c = .enqueued ∨ v = .refused ∧ c = .rejected then 1 else 0 := by
  obtain @⟨looks, more, m, _, vain, decides, -, -, grown⟩ := h
  have hlooks : growth c (own t frame looks) = 0 := growth_eq_zero fun l hl => (vain l (List.mem_filter.1 hl).1).counters
  have hm : growth c (own t frame [m]) = 0 := growth_eq_zero fun l hl => by
    rw [List.mem_singleton.1 (List.mem_filter.1 hl).1]
    exact decides.counters
  have hmore := grown c
  rw [load_nil, Nat.add_zero, load_gain_errand] at hmore
  rw [← List.singleton_append, own_append, own_append, growth_append, growth_append, hlooks, hm, hmore, Nat.zero_add,
    Nat.zero_add]

/-- A call that is back has come out with one verdict. -/
theorem Course.outcome (h : Course u t bid frame ms s) (hback : stackAt s.stacks t = frame) :
    ∃! v, Outcome u t bid frame ms s v := by
  have hlong : ∀ p : List (Instr ι), stackAt s.stacks t = p ++ frame → p = [] := fun p hst =>
    List.append_left_eq_self.1 (hst.symm.trans hback)
  cases h with
  | knocking _ hst => cases hlong [_] hst
  | @looking i tail _ hst => cases hlong (i :: tail) hst
  | @telling v q p tail _ hst =>
    have hnil := hlong (q ++ (p ++ .reply (v.reply bid.trying) :: tail)) (by simpa using hst)
    simp at hnil
  | @leaving v tail hv hst hreply =>
    exact ⟨v, ⟨hv, hreply, hv.grown_all⟩, fun v' hv' => hv.unique hv'.ruled⟩

/-- Every call to enqueue, made through whichever handle, from whichever state and by whichever code, is in each run
after it in one of three ways, as long as the lock is not poisoned. It is not back and without a verdict, and all that
its thread has done is to look where no verdict holds; or it is not back, but has its verdict, and the thread is on the
errand of that; or it has come back in the run, and has come out then with exactly one verdict. -/
theorem one_outcome {s₀ s₁ : State ι} {role : Role ι} {c : Call ι} {next : Reply ι → Script ι} {rest : List (Instr ι)}
    {sleeper : Option ThreadId} {cs : List (Choice ι)} (h : Reachable u s₀)
    (hst : stackAt s₀.stacks t = .run role (.call c next) :: rest) (hbid : c.bid? s₀.shared.now = some bid)
    (hs : step u s₀ (.run t sleeper) = some s₁) (he : execute u s₁ cs = some s)
    (hsound : s.shared.buffer.poisoned = false) :
    Away u t (.resume role next :: rest) s₁ cs ∧
      ((∀ m ∈ strides u t s₁ cs, m.Vain u t bid) ∨
        ∃ v p, Ruled u t bid (.resume role next :: rest) v (strides u t s₁ cs) p) ∨
    ∃ cs₁ c cs₂ s', cs = cs₁ ++ c :: cs₂ ∧ Away u t (.resume role next :: rest) s₁ cs₁ ∧
      execute u s₁ (cs₁ ++ [c]) = some s' ∧ stackAt s'.stacks t = .resume role next :: rest ∧
      ∃! v, Outcome u t bid (.resume role next :: rest) (strides u t s₁ (cs₁ ++ [c])) s' v := by
  obtain ⟨i, below, e, hp⟩ := performs_of_step hs
  obtain ⟨rfl, rfl⟩ := List.cons.inj (hp.before.symm.trans hst)
  obtain ⟨held, he₀, -⟩ := hp.reply
  have hafter := hp.after
  cases he₀
  have hcourse : Course u t bid (.resume role next :: below) [] s₁ := by
    rcases Call.instrs_of_bid hbid with hinstrs | hinstrs
    · have hlook : stackAt s₁.stacks t = .enter bid :: ([] ++ .resume role next :: below) := by
        rw [hafter, hinstrs]
        rfl
      exact .looking (by simp) hlook rfl (by simp)
    · exact .knocking rfl (by rw [hafter, hinstrs]; rfl)
  have hout : stackAt s₁.stacks t ≠ .resume role next :: below := by
    rw [hafter]
    rcases Call.instrs_of_bid hbid with hinstrs | hinstrs <;> simp [hinstrs]
  rcases hcourse.execute (h.step hs) he hsound (by simp) hout with ⟨haway, hend⟩ |
    ⟨cs₁, c₁, cs₂, s', hcs, haway, he₁, hback, hend⟩
  · refine .inl ⟨haway, ?_⟩
    cases hend with
    | knocking hms => exact .inl (by simp [hms])
    | looking hms => exact .inl hms
    | telling hv => exact .inr ⟨_, _, hv⟩
    | leaving hv => exact .inr ⟨_, _, hv⟩
  · exact .inr ⟨cs₁, c₁, cs₂, s', hcs, haway, he₁, hback, hend.outcome hback⟩

/-- A client fills the buffer, and is about to add one item more through a producer's handle. -/
def sampleFull : List (Choice Nat) :=
  .spawn (.call (.add .owner 7 none) fun _ => .call (.add .owner 8 none) fun _ => .call (.add .owner 9 none) fun _ =>
    .just (.add .producer 10 none)) :: runs 1 12 ++ runs 0 4 ++ runs 1 6

/-- It comes to sleep, is woken by another client's disposal, and comes back. -/
def sampleRefusal : List (Choice Nat) := runs 1 2 ++ .spawn (.just .dispose) :: runs 2 4 ++ runs 1 7

theorem sample_one_outcome :
    ∃ s₁ s, step sample (after sample sampleFull) (.run 1 none) = some s₁ ∧ execute sample s₁ sampleRefusal = some s ∧
      s.reply? 1 = some .unit ∧ s.shared.raisings = [(1, ⟨.add, "sample", .queue .disposed⟩)] ∧
      s.shared.counters.rejected = 1 ∧ s.shared.accepted = [7, 8, 9] ∧
      ∃ cs₁ c cs₂ s', sampleRefusal = cs₁ ++ c :: cs₂ ∧ execute sample s₁ (cs₁ ++ [c]) = some s' ∧
        ∃! v, Outcome sample 1 ⟨10, false, none, none⟩ [.resume .client fun r => .ret (.returned r)]
          (strides sample 1 s₁ (cs₁ ++ [c])) s' v := by
  have hst : stackAt (after sample sampleFull).stacks 1 = [.run .client (.just (.add .producer 10 none))] := rfl
  have hs : step sample (after sample sampleFull) (.run 1 none) = some (after sample (sampleFull ++ [.run 1 none])) := rfl
  have he : execute sample (after sample (sampleFull ++ [.run 1 none])) sampleRefusal =
      some (after sample (sampleFull ++ .run 1 none :: sampleRefusal)) := rfl
  refine ⟨_, _, hs, he, rfl, rfl, rfl, rfl, ?_⟩
  rcases one_outcome (reachable_after sample sampleFull) hst rfl hs he rfl with ⟨haway, -⟩ |
    ⟨cs₁, c, cs₂, s', hcs, -, he₁, -, hout⟩
  · exact absurd rfl (haway sampleRefusal _ (List.prefix_refl _) he)
  · exact ⟨cs₁, c, cs₂, s', hcs, he₁, hout⟩

end Calls

end Conveyor.Queue
