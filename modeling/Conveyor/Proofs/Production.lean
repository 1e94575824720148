import Conveyor.Production
import Conveyor.Proofs.Queue.Outcome

/-!
# What a producer delivers

A producer hands over its ids one by one and counts each that comes back without an error. A queue that takes no more
items refuses them without an error, so the count may be more than what was accepted (`refusal_counted`). What is
accepted is a prefix of the ids all the same: a queue that has refused one id accepts none after it (`Delivered`).
`Feeding` says where a producer stands; what it performs, and whatever the others do in between, leads from one of its
positions to another.

* `production_accounted`: what the count and the error of a producer that has come to its end say of its ids.
-/

namespace Conveyor.Queue

/-! ## What a thread finds after a step -/

section Steps

variable {ι : Type} {u : Setup ι} {s s' : State ι} {c : Choice ι} {t : ThreadId} {th : Thread ι}

/-- What a step makes of a thread, apart from its sleep: the thread performs an instruction, or it performs none, and is
answered or stays as it is. -/
theorem thread_of_step (hs : step u s c = some s') (ht : s.threads[t]? = some th) :
    ∃ th', s'.threads[t]? = some th' ∧
      ((∃ i rest e sleeper, c = .run t sleeper ∧ th.stack = i :: rest ∧
        perform u s.shared s.hasEnded t th.reply i = some e ∧ s'.shared = e.shared ∧
        th'.awake = (th.after rest e).awake) ∨
      c.isOf t = false ∧ (th'.awake = th.awake ∨
        ∃ role label rest script, th.stack = .run role (.pause label) :: rest ∧
          th'.awake = { th with stack := .run role script :: rest }.awake)) := by
  have hlt := (List.getElem?_eq_some_iff.1 ht).1
  cases c with
  | run t' sleeper =>
    obtain ⟨th₁, i, rest, e, ths, ht₁, -, hst, he, hw, rfl⟩ := run_of_step hs
    have hmap := congrArg (·[t]?) (wake_map (f := Thread.awake) (fun _ => rfl) hw)
    simp only [List.getElem?_map] at hmap
    by_cases htt : t' = t
    · subst htt
      obtain rfl := Option.some.inj (ht.symm.trans ht₁)
      rw [List.getElem?_set_self hlt] at hmap
      obtain ⟨th', ht', heq⟩ := Option.map_eq_some_iff.1 hmap
      exact ⟨th', ht', .inl ⟨i, rest, e, sleeper, rfl, hst, he, rfl, heq⟩⟩
    · rw [List.getElem?_set_ne htt, ht] at hmap
      obtain ⟨th', ht', heq⟩ := Option.map_eq_some_iff.1 hmap
      exact ⟨th', ht', .inr ⟨Choice.isOf_run.2 htt, .inl heq⟩⟩
  | rouse t' =>
    obtain ⟨th₁, ht₁, -, rfl⟩ := rouse_of_step hs
    by_cases htt : t' = t
    · subst htt
      obtain rfl := Option.some.inj (ht.symm.trans ht₁)
      exact ⟨_, List.getElem?_set_self hlt, .inr ⟨rfl, .inl rfl⟩⟩
    · exact ⟨th, (List.getElem?_set_ne htt).trans ht, .inr ⟨rfl, .inl rfl⟩⟩
  | answer t' script =>
    obtain ⟨th₁, role, label, rest, ht₁, hst, rfl⟩ := answer_of_step hs
    by_cases htt : t' = t
    · subst htt
      obtain rfl := Option.some.inj (ht.symm.trans ht₁)
      exact ⟨_, List.getElem?_set_self hlt, .inr ⟨rfl, .inr ⟨role, label, rest, script, hst, rfl⟩⟩⟩
    · exact ⟨th, (List.getElem?_set_ne htt).trans ht, .inr ⟨rfl, .inl rfl⟩⟩
  | spawn script =>
    cases hs
    exact ⟨th, (List.getElem?_append_left hlt).trans ht, .inr ⟨rfl, .inl rfl⟩⟩
  | _ => cases hs; exact ⟨th, ht, .inr ⟨rfl, .inl rfl⟩⟩

/-- A cancelled token stays so. -/
theorem cancelled_of_perform {sh : Shared ι} {ended : ThreadId → Bool} {held : Reply ι} {i : Instr ι} {e : Effect ι}
    (he : perform u sh ended t held i = some e) : sh.cancelled ⊆ e.shared.cancelled := by
  by_cases hi : ∃ token, i = .cancel token
  · obtain ⟨token, rfl⟩ := hi
    cases he
    exact List.subset_cons_self token _
  · rw [(decreed_of_perform he).cancelled fun token htoken => hi ⟨token, htoken⟩]
    exact List.Subset.refl _

/-- From `sh` to `sh'`, nothing is accepted on thread `t`, and what a producer there may rely on stays so. -/
structure Onward (t : ThreadId) (sh sh' : Shared ι) : Prop where
  closed : sh.buffer.value.isClosed = true → sh'.buffer.value.isClosed = true
  cancelled : sh.cancelled ⊆ sh'.cancelled
  acceptances : onThread t sh'.acceptances = onThread t sh.acceptances
  raisings : onThread t sh.raisings <+: onThread t sh'.raisings

theorem Onward.refl (t : ThreadId) (sh : Shared ι) : Onward t sh sh :=
  ⟨id, List.Subset.refl _, rfl, List.prefix_refl _⟩

/-- A closed queue accepts nothing. -/
theorem Act.acceptances_of_closed {sh : Shared ι} {i : Instr ι} {e : Effect ι} (hact : Act u sh t i e)
    (hclosed : sh.buffer.value.isClosed = true) : e.shared.acceptances = sh.acceptances := by
  cases hact with
  | accept _ hopen => rw [hclosed] at hopen; cases hopen
  | refuse _ _ hsame => exact hsame.acceptances
  | other _ _ hsame => exact hsame.acceptances
  | take => simp [Note.accepted?]
  | start => simp [Note.accepted?]
  | handled => simp [Note.accepted?]
  | resolve => simp [Note.accepted?]
  | close => simp [Note.accepted?]
  | _ => rfl

theorem Voice.raisings_onThread {sh : Shared ι} {t' : ThreadId} {i : Instr ι} {e : Effect ι}
    (hvoice : Voice u sh t' i e) (t : ThreadId) : onThread t sh.raisings <+: onThread t e.shared.raisings := by
  rw [hvoice.raisings, onThread_append]
  exact List.prefix_append _ _

/-- What an instruction of thread `t` does, unless it is a look for a bid at an open queue. -/
theorem onward_of_perform {sh : Shared ι} {ended : ThreadId → Bool} {held : Reply ι} {i : Instr ι} {e : Effect ι}
    (hproper : i.isProper = true) (hsound : i.isSound = true) (he : perform u sh ended t held i = some e)
    (hi : i.bid? = none ∨ sh.buffer.value.isClosed = true) : Onward t sh e.shared := by
  have hact := act_of_perform hsound he
  refine ⟨hact.stays_closed, cancelled_of_perform he, congrArg (onThread t) ?_,
    (voice_of_perform hproper he).raisings_onThread t⟩
  rcases hi with hbid | hclosed
  · exact hact.acceptances hbid
  · exact hact.acceptances_of_closed hclosed

/-- What the others do. -/
theorem Reachable.onward (h : Reachable u s) (hs : Queue.step u s c = some s') (hc : c.isOf t = false) :
    Onward t s.shared s'.shared := by
  cases c with
  | run t' sleeper =>
    have hne : t' ≠ t := Choice.isOf_run.1 hc
    obtain ⟨th, i, rest, e, ths, ht, -, hst, he, -, rfl⟩ := run_of_step hs
    have hmem : i ∈ th.stack := hst ▸ List.mem_cons_self
    have hstack := List.mem_of_getElem? (getElem?_stacks ht)
    have hact := act_of_perform (h.sound _ hstack i hmem) he
    exact ⟨hact.stays_closed, cancelled_of_perform he, hact.acceptances_other hne.symm,
      (voice_of_perform (h.proper _ hstack i hmem) he).raisings_onThread t⟩
  | rouse t' =>
    obtain ⟨th, -, -, rfl⟩ := rouse_of_step hs
    exact .refl t _
  | answer t' script =>
    obtain ⟨th, role, label, rest, -, -, rfl⟩ := answer_of_step hs
    exact .refl t _
  | _ => cases hs; exact ⟨id, List.Subset.refl _, rfl, List.prefix_refl _⟩

/-- Only threads that there are have had items accepted. -/
theorem Reachable.acceptances_lt (h : Reachable u s) : ∀ p ∈ s.shared.acceptances, p.1 < s.stacks.length := by
  refine h.shift_induction (I := fun sh ss => ∀ p ∈ sh.acceptances, p.1 < ss.length)
    (by simp [Setup.start, Shared.entries, Note.accepted?]) ?_
  intro s sh ss _ hshift ih p hp
  cases hshift with
  | @act t i rest e ht hact =>
    rw [List.length_set]
    rcases hact.accepts with heq | ⟨bid, -, heq⟩
    · exact ih p (heq ▸ hp)
    · rw [heq] at hp
      rcases List.mem_append.1 hp with hp | hp
      · exact ih p hp
      · rw [List.mem_singleton.1 hp]
        exact (List.getElem?_eq_some_iff.1 ht).1
  | answer => simpa using ih p hp
  | spawn => simpa using Nat.lt_succ_of_lt (ih p hp)
  | same hsame => exact ih p (hsame.acceptances ▸ hp)

end Steps

end Conveyor.Queue

namespace Conveyor.Production

open Queue

/-! ## The script -/

section Script

variable (token : TokenId) (id : Nat) (rest : List Nat) (n : Nat)

/-- How a producer goes on that has `rest` still to deliver. -/
def goOn (rest : List Nat) (n : Nat) : Script Nat := feed token (fun n => finish n none) rest n

/-- How a producer goes on that has asked for its token after the queue was found disposed. -/
def onDisposed : Reply Nat → Script Nat
  | .bool true => finish n none
  | _ => finish n (some .disposed)

/-- How a producer goes on that has handed over an id. -/
def onAdd : Reply Nat → Script Nat
  | .error .cancelled => finish n none
  | .error .disposed => .call (.isCancelled token) (onDisposed n)
  | .error e => finish n (some e)
  | _ => goOn token rest (n + 1)

/-- How a producer goes on that has asked for its token. -/
def onCheck : Reply Nat → Script Nat
  | .bool true => finish n none
  | _ => .call (.add .producer id (some token)) (onAdd token rest n)

theorem goOn_nil : goOn token [] n = finish n none := rfl

theorem goOn_cons : goOn token (id :: rest) n = .call (.isCancelled token) (onCheck token id rest n) := rfl

end Script

/-! ## What was delivered -/

/-- What has become of the ids `done` that thread `t` has counted: a prefix of them was accepted; the others were
refused because the queue was closed, each with an exception. -/
structure Delivered (t : ThreadId) (sh : Shared Nat) (done : List Nat) : Prop where
  accepted : onThread t sh.acceptances <+: done
  closed : (onThread t sh.acceptances).length < done.length → sh.buffer.value.isClosed = true
  raised : done.length ≤ (onThread t sh.acceptances).length + (onThread t sh.raisings).length

section Delivered

variable {t : ThreadId} {sh sh' : Shared Nat} {done : List Nat} {id : Nat}

theorem Delivered.onward (h : Delivered t sh done) (ho : Onward t sh sh') : Delivered t sh' done := by
  have hacc := ho.acceptances
  have hlen := ho.raisings.length_le
  constructor
  case accepted => exact hacc ▸ h.accepted
  case closed => exact fun hlt => ho.closed (h.closed (hacc ▸ hlt))
  case raised =>
    have hraised := h.raised
    rw [hacc]
    omega

/-- An open queue has accepted all that was counted. -/
theorem Delivered.eq_of_open (h : Delivered t sh done) (hopen : sh.buffer.value.isClosed = false) :
    onThread t sh.acceptances = done := by
  apply h.accepted.eq_of_length_le
  by_contra hlt
  rw [h.closed (Nat.lt_of_not_le hlt)] at hopen
  cases hopen

/-- An id is accepted. -/
theorem Delivered.accept (h : Delivered t sh done) (hopen : sh.buffer.value.isClosed = false)
    (hacc : onThread t sh'.acceptances = onThread t sh.acceptances ++ [id]) : Delivered t sh' (done ++ [id]) := by
  have heq : onThread t sh'.acceptances = done ++ [id] := by rw [hacc, h.eq_of_open hopen]
  constructor
  case accepted => exact heq ▸ List.prefix_refl _
  case closed => exact fun hlt => absurd hlt (by simp [heq])
  case raised =>
    rw [heq]
    exact Nat.le_add_right _ _

/-- An id is refused. -/
theorem Delivered.refuse (h : Delivered t sh done) {x : QueueException} (hclosed : sh'.buffer.value.isClosed = true)
    (hacc : sh'.acceptances = sh.acceptances) (hraise : sh'.raisings = sh.raisings ++ [(t, x)]) :
    Delivered t sh' (done ++ [id]) := by
  have hraised : onThread t sh'.raisings = onThread t sh.raisings ++ [x] := by
    rw [hraise, onThread_append]
    exact congrArg _ (onThread_self t [x])
  constructor
  case accepted => exact hacc ▸ h.accepted.trans (List.prefix_append done [id])
  case closed => exact fun _ => hclosed
  case raised =>
    have hle := h.raised
    rw [hacc, hraised]
    simp only [List.length_append, List.length_singleton]
    omega

end Delivered

/-! ## Where a producer stands -/

section Feeding

variable (token : TokenId) (ids : List Nat) (t : ThreadId) (sh : Shared Nat)

/-- What a producer may say of its ids in the end. -/
structure Accounts (n : Nat) (error : Option QueueError) : Prop where
  delivered : ∃ done rest, ids = done ++ rest ∧ done.length = n ∧ Delivered t sh done
  complete : error = none → n = ids.length ∨ token ∈ sh.cancelled
  short : error.isSome = true → n < ids.length

/-- The scripts by which a producer goes on, its ids being delivered so far. -/
inductive Stage : Script Nat → Prop
  | feeding {done rest : List Nat} (hids : ids = done ++ rest) (hd : Delivered t sh done) :
      Stage (goOn token rest done.length)
  | adding {done rest : List Nat} {id : Nat} (hids : ids = done ++ id :: rest) (hd : Delivered t sh done) :
      Stage (.call (.add .producer id (some token)) (onAdd token rest done.length))
  | doubting {done rest : List Nat} {id : Nat} (hids : ids = done ++ id :: rest) (hd : Delivered t sh done) :
      Stage (.call (.isCancelled token) (onDisposed done.length))
  | finished {n : Nat} {error : Option QueueError} (ha : Accounts token ids t sh n error) : Stage (finish n error)

/-- The reply to a producer that asks for its token is no lie. -/
def Honest (r : Reply Nat) : Prop := r = .bool true → token ∈ sh.cancelled

/-- How a producer goes on that asks for its token, an id being still to deliver. -/
inductive Asks : (Reply Nat → Script Nat) → Prop
  | check {done rest : List Nat} {id : Nat} (hids : ids = done ++ id :: rest) (hd : Delivered t sh done) :
      Asks (onCheck token id rest done.length)
  | doubt {done rest : List Nat} {id : Nat} (hids : ids = done ++ id :: rest) (hd : Delivered t sh done) :
      Asks (onDisposed done.length)

/-- The reply to the call that hands over `id` after `done`. -/
inductive Receipt (done : List Nat) (id : Nat) : Reply Nat → Prop
  | unit (hd : Delivered t sh (done ++ [id])) : Receipt done id .unit
  | error {e : QueueError} (hd : Delivered t sh done) (hcancel : e = .cancelled → token ∈ sh.cancelled) :
      Receipt done id (.error e)

/-- Where a producer on thread `t` stands. -/
inductive Feeding (th : Thread Nat) : Prop
  | going {script : Script Nat} (hst : th.stack = [.run .client script]) (hs : Stage token ids t sh script)
  | asking {next : Reply Nat → Script Nat} (hst : th.stack = [.isCancelled token, .resume .client next])
      (hn : Asks token ids t sh next)
  | asked {next : Reply Nat → Script Nat} (hst : th.stack = [.resume .client next]) (hn : Asks token ids t sh next)
      (hr : Honest token sh th.reply)
  /-- The producer's handle has still to find the queue. -/
  | knocking {done rest : List Nat} {id : Nat} (hids : ids = done ++ id :: rest) (hd : Delivered t sh done)
      (hst : th.stack = [.upgrade [.enter ⟨id, false, none, some token⟩] (.error .disposed),
        .resume .client (onAdd token rest done.length)])
  | looking {done rest : List Nat} {id : Nat} {i : Instr Nat} (hids : ids = done ++ id :: rest)
      (hd : Delivered t sh done) (hi : i.bid? = some ⟨id, false, none, some token⟩)
      (hst : th.stack = [i, .release, .resume .client (onAdd token rest done.length)])
  /-- An id is counted; what is done about it may be anything once the queue is closed, code of callbacks too. -/
  | telling {done rest : List Nat} {id : Nat} {p : List (Instr Nat)} (hids : ids = done ++ id :: rest)
      (hd : Delivered t sh (done ++ [id]))
      (hp : sh.buffer.value.isClosed = true ∨ ∀ j ∈ p, j = .bump .enqueued 1 ∨ j = .notifyOne .notEmpty)
      (hst : th.stack = p ++ [.reply .unit, .release, .resume .client (onAdd token rest done.length)])
  | leaving {done rest : List Nat} {id : Nat} {tail : List (Instr Nat)} (hids : ids = done ++ id :: rest)
      (htail : tail = [] ∨ tail = [.release])
      (hst : th.stack = tail ++ [.resume .client (onAdd token rest done.length)])
      (hr : Receipt token t sh done id th.reply)
  | ended {n : Nat} {error : Option QueueError} (hst : th.stack = [])
      (hend : th.ending = some (.returned (.accepted n error))) (ha : Accounts token ids t sh n error)

end Feeding

section Feeding

variable {token : TokenId} {ids : List Nat} {t : ThreadId} {sh sh' : Shared Nat}

/-! ## What the others do -/

theorem Accounts.onward {n : Nat} {error : Option QueueError} (h : Accounts token ids t sh n error)
    (ho : Onward t sh sh') : Accounts token ids t sh' n error := by
  obtain ⟨⟨done, rest, hids, hn, hd⟩, hcomplete, hshort⟩ := h
  exact ⟨⟨done, rest, hids, hn, hd.onward ho⟩, fun he => (hcomplete he).imp_right (ho.cancelled ·), hshort⟩

theorem Stage.onward {script : Script Nat} (h : Stage token ids t sh script) (ho : Onward t sh sh') :
    Stage token ids t sh' script := by
  cases h with
  | feeding hids hd => exact .feeding hids (hd.onward ho)
  | adding hids hd => exact .adding hids (hd.onward ho)
  | doubting hids hd => exact .doubting hids (hd.onward ho)
  | finished ha => exact .finished (ha.onward ho)

theorem Asks.onward {next : Reply Nat → Script Nat} (h : Asks token ids t sh next) (ho : Onward t sh sh') :
    Asks token ids t sh' next := by
  cases h with
  | check hids hd => exact .check hids (hd.onward ho)
  | doubt hids hd => exact .doubt hids (hd.onward ho)

theorem Receipt.onward {done : List Nat} {id : Nat} {r : Reply Nat} (h : Receipt token t sh done id r)
    (ho : Onward t sh sh') : Receipt token t sh' done id r := by
  cases h with
  | unit hd => exact .unit (hd.onward ho)
  | error hd hcancel => exact .error (hd.onward ho) fun he => ho.cancelled (hcancel he)

/-- A producer stays where it is while the others move, and when it is woken. -/
theorem Feeding.onward {th th' : Thread Nat} (h : Feeding token ids t sh th) (ho : Onward t sh sh')
    (hth : th'.awake = th.awake) : Feeding token ids t sh' th' := by
  have hstack : th'.stack = th.stack := show th'.awake.stack = th.awake.stack by rw [hth]
  have hreply : th'.reply = th.reply := show th'.awake.reply = th.awake.reply by rw [hth]
  have hending : th'.ending = th.ending := show th'.awake.ending = th.awake.ending by rw [hth]
  cases h with
  | going hst hs => exact .going (hstack.trans hst) (hs.onward ho)
  | asking hst hn => exact .asking (hstack.trans hst) (hn.onward ho)
  | asked hst hn hr => exact .asked (hstack.trans hst) (hn.onward ho) fun heq => ho.cancelled (hr (hreply ▸ heq))
  | knocking hids hd hst => exact .knocking hids (hd.onward ho) (hstack.trans hst)
  | looking hids hd hi hst => exact .looking hids (hd.onward ho) hi (hstack.trans hst)
  | telling hids hd hp hst => exact .telling hids (hd.onward ho) (hp.imp_left ho.closed) (hstack.trans hst)
  | leaving hids htail hst hr => exact .leaving hids htail (hstack.trans hst) (hreply ▸ hr.onward ho)
  | ended hst hend ha => exact .ended (hstack.trans hst) (hending.trans hend) (ha.onward ho)

theorem Stage.ne_pause {script : Script Nat} (h : Stage token ids t sh script) (label : String) :
    script ≠ .pause label := by
  cases h with
  | @feeding done rest => cases rest <;> simp [goOn, feed, finish]
  | finished => simp [finish]
  | _ => simp

/-- Only code that its own refusal has called can be in a pause above a producer. -/
theorem Feeding.answer {th : Thread Nat} {role : Role Nat} {label : String} {rest : List (Instr Nat)}
    {script : Script Nat} (h : Feeding token ids t sh th) (hst : th.stack = .run role (.pause label) :: rest) :
    Feeding token ids t sh { th with stack := .run role script :: rest } := by
  cases h with
  | going hst' hs =>
    rw [hst] at hst'
    obtain ⟨heq, -⟩ := List.cons.inj hst'
    cases heq
    exact absurd rfl (hs.ne_pause label)
  | @telling done rest id p hids hd hp hst' =>
    rw [hst] at hst'
    cases p with
    | nil => cases hst'
    | cons j p =>
      obtain ⟨rfl, rfl⟩ := List.cons.inj hst'
      refine .telling (p := .run role script :: p) hids hd (.inl ?_) rfl
      rcases hp with hclosed | hp
      · exact hclosed
      · rcases hp _ List.mem_cons_self with hj | hj <;> cases hj
  | @leaving done rest id tail hids htail hst' hr =>
    rw [hst] at hst'
    rcases htail with rfl | rfl <;> cases hst'
  | looking hids hd hi hst' =>
    rw [hst] at hst'
    cases hst'
    cases hi
  | _ => simp_all

/-! ## What a producer does itself -/

section Perform

variable {u : Setup Nat} {ended : ThreadId → Bool} {held : Reply Nat} {i : Instr Nat} {rest : List (Instr Nat)}
  {e : Effect Nat} {th : Thread Nat}

/-- A producer whose token is cancelled may end. -/
theorem Accounts.of_cancelled {done rest : List Nat} (hids : ids = done ++ rest) (hd : Delivered t sh done)
    (hcancel : token ∈ sh.cancelled) : Accounts token ids t sh done.length none :=
  ⟨⟨done, rest, hids, rfl, hd⟩, fun _ => .inr hcancel, fun he => by cases he⟩

/-- A producer that has met an error may end with ids left. -/
theorem Accounts.of_error {done rest : List Nat} {id : Nat} (hids : ids = done ++ id :: rest)
    (hd : Delivered t sh done) (e : QueueError) : Accounts token ids t sh done.length (some e) :=
  ⟨⟨done, id :: rest, hids, rfl, hd⟩, by simp, fun _ => by simp [hids]⟩

/-- How a producer goes on that was told about its token. -/
theorem Asks.stage {next : Reply Nat → Script Nat} (h : Asks token ids t sh next) {r : Reply Nat}
    (hr : Honest token sh r) : Stage token ids t sh (next r) := by
  cases h with
  | check hids hd =>
    unfold onCheck
    split
    · exact .finished (.of_cancelled hids hd (hr rfl))
    · exact .adding hids hd
  | doubt hids hd =>
    unfold onDisposed
    split
    · exact .finished (.of_cancelled hids hd (hr rfl))
    · exact .finished (.of_error hids hd _)

/-- How a producer goes on that has handed over an id. -/
theorem Receipt.stage {done left : List Nat} {id : Nat} {r : Reply Nat} (h : Receipt token t sh done id r)
    (hids : ids = done ++ id :: left) : Stage token ids t sh (onAdd token left done.length r) := by
  cases h with
  | unit hd =>
    have hnext : Stage token ids t sh (goOn token left (done ++ [id]).length) := .feeding (by simp [hids]) hd
    rwa [List.length_append] at hnext
  | @error e hd hcancel =>
    unfold onAdd
    split
    · rename_i heq
      cases heq
      exact .finished (.of_cancelled hids hd (hcancel rfl))
    · exact .doubting hids hd
    · exact .finished (.of_error hids hd _)
    · rename_i hno
      exact absurd rfl (hno e)

/-- A producer makes its next call, or ends. -/
theorem Stage.perform {script : Script Nat} (h : Stage token ids t sh script)
    (he : perform u sh ended t th.reply (.run .client script) = some e) :
    Feeding token ids t e.shared (th.after [] e) := by
  cases h with
  | @feeding done left hids hd =>
    cases left with
    | nil =>
      rw [goOn_nil] at he
      cases he
      refine .ended rfl rfl ⟨⟨done, [], hids, rfl, hd⟩, fun _ => .inl (by simp [hids]), fun he => by cases he⟩
    | cons id left =>
      rw [goOn_cons] at he
      cases he
      exact .asking rfl (.check hids hd)
  | adding hids hd =>
    cases he
    exact .knocking hids hd rfl
  | doubting hids hd =>
    cases he
    exact .asking rfl (.doubt hids hd)
  | finished ha =>
    cases he
    exact .ended rfl rfl ha

/-- A look at the state lock for an id. -/
theorem feeding_of_look {done left : List Nat} {id : Nat} (hids : ids = done ++ id :: left) (hd : Delivered t sh done)
    (hi : i.bid? = some ⟨id, false, none, some token⟩) (he : perform u sh ended t th.reply i = some e) :
    Feeding token ids t e.shared (th.after [.release, .resume .client (onAdd token left done.length)] e) := by
  by_cases hp : sh.buffer.poisoned = true
  · obtain ⟨a, ha⟩ := Instr.access?_of_bid hi
    rw [perform_poisoned ha hp] at he
    cases he
    exact .leaving hids (.inr rfl) rfl (.error hd fun he => by cases he)
  have hsound := Bool.eq_false_iff.2 hp
  cases hv : verdict? u sh ⟨id, false, none, some token⟩ i.isEntry with
  | none =>
    rw [perform_vain hi hsound hv] at he
    cases he
    exact .looking (i := .retry ⟨id, false, none, some token⟩) hids hd rfl rfl
  | some v =>
    rw [perform_decided hi hsound hv] at he
    cases he
    have hholds := verdict?_eq_some.1 hv
    cases v with
    | denied => exact .leaving hids (.inr rfl) rfl (.error hd fun he => by cases he)
    | accepted =>
      refine .telling (p := [.bump .enqueued 1, .notifyOne .notEmpty]) hids (hd.accept hholds.1 ?_) (.inr ?_) rfl
      · simp [Verdict.effect, Verdict.settle, Note.accepted?, onThread]
      · simp
    | refused =>
      refine .telling (p := raise (sh.refusal u)) hids (hd.refuse (x := sh.refusal u) ?_ ?_ ?_) (.inl ?_) rfl
      · exact hholds.1
      · simp [Verdict.effect, Verdict.settle, Note.accepted?]
      · simp [Verdict.effect, Verdict.settle, Note.raised?]
      · exact hholds.1
    | cancelled =>
      have hcancel : token ∈ sh.cancelled := by simpa using hholds.2.2
      exact .leaving hids (.inr rfl) rfl (.error hd fun _ => hcancel)
    | timedOut => exact absurd hholds.2.2.2 (by simp)

/-- A producer that performs an instruction comes to another of its positions. -/
theorem Feeding.perform (h : Feeding token ids t sh th) (hst : th.stack = i :: rest) (hsound : i.isSound = true)
    (hproper : i.isProper = true) (he : perform u sh ended t th.reply i = some e) :
    Feeding token ids t e.shared (th.after rest e) := by
  have honward : i.bid? = none ∨ sh.buffer.value.isClosed = true → Onward t sh e.shared :=
    onward_of_perform hproper hsound he
  cases h with
  | going hst' hs =>
    obtain ⟨rfl, rfl⟩ := List.cons.inj (hst.symm.trans hst')
    exact hs.perform he
  | asking hst' hn =>
    obtain ⟨rfl, rfl⟩ := List.cons.inj (hst.symm.trans hst')
    cases he
    exact .asked rfl hn fun heq => by simpa [Thread.after] using heq
  | asked hst' hn hr =>
    obtain ⟨rfl, rfl⟩ := List.cons.inj (hst.symm.trans hst')
    cases he
    exact .going rfl (hn.stage hr)
  | knocking hids hd hst' =>
    obtain ⟨rfl, rfl⟩ := List.cons.inj (hst.symm.trans hst')
    have hd' := hd.onward (honward (.inl rfl))
    simp only [perform, Option.some.injEq] at he
    split at he
    · cases he
      exact .leaving hids (.inl rfl) rfl (.error hd' fun he => by cases he)
    · cases he
      exact .looking hids hd' rfl rfl
  | looking hids hd hi hst' =>
    obtain ⟨rfl, rfl⟩ := List.cons.inj (hst.symm.trans hst')
    exact feeding_of_look hids hd hi he
  | @telling done left id p hids hd hp hst' =>
    cases p with
    | nil =>
      obtain ⟨rfl, rfl⟩ := List.cons.inj (hst.symm.trans hst')
      cases he
      exact .leaving hids (.inr rfl) rfl (.unit hd)
    | cons j p =>
      obtain ⟨rfl, rfl⟩ := List.cons.inj (hst.symm.trans hst')
      rcases hp with hclosed | hp
      · have ho := honward (.inr hclosed)
        exact .telling (p := e.push ++ p) hids (hd.onward ho) (.inl (ho.closed hclosed)) (by simp [Thread.after])
      · -- what is left to do for an accepted id leaves nothing more
        have hpush : e.push = [] ∧ i.bid? = none := by
          rcases hp i List.mem_cons_self with rfl | rfl <;> (cases he; exact ⟨rfl, rfl⟩)
        refine .telling (p := p) hids (hd.onward (honward (.inl hpush.2))) (.inr fun j hj => ?_)
          (by simp [Thread.after, hpush.1])
        exact hp j (List.mem_cons_of_mem _ hj)
  | leaving hids htail hst' hr =>
    rcases htail with rfl | rfl
    · obtain ⟨rfl, rfl⟩ := List.cons.inj (hst.symm.trans hst')
      cases he
      exact .going rfl (hr.stage hids)
    · obtain ⟨rfl, rfl⟩ := List.cons.inj (hst.symm.trans hst')
      have ho := honward (.inl rfl)
      cases he
      exact .leaving hids (.inl rfl) rfl (hr.onward ho)
  | ended hst' =>
    rw [hst] at hst'
    cases hst'

end Perform

end Feeding

/-! ## Runs -/

section Runs

variable {u : Setup Nat} {token : TokenId} {ids : List Nat} {s₀ s s' : State Nat} {t : ThreadId} {th : Thread Nat}
  {c : Choice Nat} {cs : List (Choice Nat)}

/-- One step of a run. -/
theorem Feeding.step (h : Feeding token ids t s.shared th) (hr : Reachable u s) (hs : Queue.step u s c = some s')
    (ht : s.threads[t]? = some th) : ∃ th', s'.threads[t]? = some th' ∧ Feeding token ids t s'.shared th' := by
  obtain ⟨th', ht', hcase⟩ := thread_of_step hs ht
  refine ⟨th', ht', ?_⟩
  rcases hcase with ⟨i, rest, e, sleeper, -, hst, he, hshared, hth⟩ | ⟨hc, hcase⟩
  · have hmem : i ∈ th.stack := hst ▸ List.mem_cons_self
    have hstack := List.mem_of_getElem? (getElem?_stacks ht)
    rw [hshared]
    exact (h.perform hst (hr.sound _ hstack i hmem) (hr.proper _ hstack i hmem) he).onward (.refl t _) hth
  · have ho := hr.onward hs hc
    rcases hcase with hth | ⟨role, label, rest, script, hst, hth⟩
    · exact h.onward ho hth
    · exact (h.answer hst).onward ho hth

/-- A producer that starts has delivered nothing. -/
theorem feeding_spawn (h : Reachable u s₀) :
    Feeding token ids s₀.threads.length s₀.shared { stack := [.run .client (produce token ids)] } := by
  have hnil : onThread s₀.threads.length s₀.shared.acceptances = [] := by
    refine List.filterMap_eq_nil_iff.2 fun p hp => if_neg fun heq => ?_
    have hlt := h.acceptances_lt p hp
    rw [heq, State.stacks, List.length_map] at hlt
    exact Nat.lt_irrefl _ hlt
  have hids : ids = [] ++ ids := rfl
  exact .going rfl (.feeding hids ⟨by simp [hnil], by simp, Nat.zero_le _⟩)

/-- A producer stands somewhere in every run. -/
theorem feeding_of_execute (h : Reachable u s₀) (he : execute u (s₀.spawn (produce token ids)) cs = some s) :
    Reachable u s ∧
      ∃ th, s.threads[s₀.threads.length]? = some th ∧ Feeding token ids s₀.threads.length s.shared th := by
  have hspawn : Queue.step u s₀ (.spawn (produce token ids)) = some (s₀.spawn (produce token ids)) := rfl
  refine (h.step hspawn).execute_induction (P := fun s => Reachable u s ∧
    ∃ th, s.threads[s₀.threads.length]? = some th ∧ Feeding token ids s₀.threads.length s.shared th) ?_ he
    ⟨h.step hspawn, _, by simp [State.spawn], feeding_spawn h⟩
  rintro s s' c hr hs ⟨-, th, ht, hfeed⟩
  exact ⟨hr.step hs, hfeed.step hr hs ht⟩

/-- What a producer says of its ids when it is over, whatever the queue, the others, the callbacks and whoever holds the
token do meanwhile. Of the ids that it counts, a prefix was accepted, and nothing else on its thread. Only a closed queue
has made it count more than that, and it has raised an exception for each that it has counted in vain. With no error to
report, all ids are counted or the token is cancelled; with an error, some id is not. -/
theorem production_accounted {ending : Ending Nat} (h : Reachable u s₀)
    (he : execute u (s₀.spawn (produce token ids)) cs = some s) (hend : s.ending? s₀.threads.length = some ending) :
    ∃ n error k, ending = .returned (.accepted n error) ∧
      onThread s₀.threads.length s.shared.acceptances = ids.take k ∧ k ≤ n ∧ n ≤ ids.length ∧
      (k < n → s.shared.buffer.value.isClosed = true ∧ n ≤ k + (onThread s₀.threads.length s.shared.raisings).length) ∧
      (error = none → n = ids.length ∨ token ∈ s.shared.cancelled) ∧ (error.isSome = true → n < ids.length) := by
  obtain ⟨-, th, ht, hfeed⟩ := feeding_of_execute h he
  obtain ⟨hst, hending⟩ : th.stack = [] ∧ th.ending = some ending := by
    rw [State.ending?, ht, Option.bind_some] at hend
    split at hend
    · rename_i hended
      exact ⟨List.isEmpty_iff.1 hended, hend⟩
    · cases hend
  cases hfeed with
  | @ended n error hnil hthe ha =>
    obtain ⟨done, rest, rfl, rfl, hd⟩ := ha.delivered
    have hle := hd.accepted.length_le
    refine ⟨done.length, error, (onThread s₀.threads.length s.shared.acceptances).length,
      Option.some.inj (hending.symm.trans hthe), ?_, hle, by simp, fun hlt => ⟨hd.closed hlt, hd.raised⟩, ha.complete,
      ha.short⟩
    rw [List.take_append_of_le_length hle]
    exact List.prefix_iff_eq_take.1 hd.accepted
  | _ => simp_all

/-- The worker takes one of three ids that a producer has delivered; then another client ends adding, and the producer
hands over its last id. -/
def sampleDelivery : List (Choice Nat) :=
  runs 1 22 ++ runs 0 4 ++ runs 1 11 ++ .spawn (.just .completeAdding) :: runs 2 2 ++ runs 1 14

theorem sample_production_accounted :
    ∃ s, execute sample (sample.start.spawn (produce "stop" [7, 8, 9, 10])) sampleDelivery = some s ∧
      s.ending? 1 = some (.returned (.accepted 4 none)) ∧
      ∃ k, onThread 1 s.shared.acceptances = [7, 8, 9, 10].take k ∧ k ≤ 4 ∧
        (k < 4 → s.shared.buffer.value.isClosed = true ∧ 4 ≤ k + (onThread 1 s.shared.raisings).length) := by
  have he : execute sample (sample.start.spawn (produce "stop" [7, 8, 9, 10])) sampleDelivery =
      some (after sample (.spawn (produce "stop" [7, 8, 9, 10]) :: sampleDelivery)) := rfl
  have hend : (after sample (.spawn (produce "stop" [7, 8, 9, 10]) :: sampleDelivery)).ending? 1 =
      some (.returned (.accepted 4 none)) := rfl
  obtain ⟨n, error, k, heq, hacc, hle, -, hrest, -⟩ := production_accounted .start he hend
  cases heq
  exact ⟨_, he, hend, k, hacc, hle, hrest⟩

/-- Handed to a queue that takes no more items, an id is counted, though the token is not cancelled and nothing is ever
accepted. -/
theorem refusal_counted :
    ∃ s₀ s, Reachable sample s₀ ∧ execute sample (s₀.spawn (produce "stop" [7])) (runs 2 14) = some s ∧
      s.ending? 2 = some (.returned (.accepted 1 none)) ∧ "stop" ∉ s.shared.cancelled ∧ s.shared.accepted = [] ∧
      onThread 2 s.shared.acceptances ≠ [7].take 1 := by
  have hr := reachable_after sample (.spawn (.just .completeAdding) :: runs 1 2)
  have he : execute sample ((after sample (.spawn (.just .completeAdding) :: runs 1 2)).spawn (produce "stop" [7]))
      (runs 2 14) = some (after sample
        (.spawn (.just .completeAdding) :: runs 1 2 ++ .spawn (produce "stop" [7]) :: runs 2 14)) := rfl
  exact ⟨_, _, hr, he, rfl, List.not_mem_nil, rfl, (List.cons_ne_nil 7 []).symm⟩

end Runs

end Conveyor.Production
