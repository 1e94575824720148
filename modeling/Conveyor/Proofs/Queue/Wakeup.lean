import Conveyor.Proofs.Queue.Execution
import Conveyor.Proofs.Queue.Move
import Mathlib.Data.List.Forall2

/-!
# No wakeup is lost

Threads sleep until there is room, or until there is an item. As long as somebody sleeps on a condition of an open
queue, the wakeups that are under way (threads woken that have yet to look again, and notifications still owed) are
enough for what there is to wake up for (`Ajar`). Once the wait on a condition is over, because the queue is closed or
the completion result is there (`Condition.isUp`), somebody has still to wake all (`Roused`). What an instruction takes
away from the one side it takes away from the other (`Act.served`), whoever comes first.

* `no_lost_wakeup`: with no wakeup under way, threads sleep only where there is nothing for them to do.
-/

namespace Conveyor.Queue

variable {ι : Type}

/-! ## Sleepers and the woken -/

namespace Instr

/-- Whether the instruction looks again after a sleep on a condition. -/
def rechecks : Condition → Instr ι → Bool
  | .notFull, .retry _ => true
  | .notEmpty, .retake => true
  | .resolved, .awaitResult _ => true
  | _, _ => false

/-- The single notifications of a condition. -/
def notifies (c : Condition) : Instr ι → Nat
  | .notifyOne c' => if c' = c then 1 else 0
  | _ => 0

theorem rechecks_le_one (c : Condition) (i : Instr ι) : (i.rechecks c).toNat ≤ 1 := Bool.toNat_le _

end Instr

/-- Whether the thread is awake again after a sleep on a condition and has yet to look. -/
def Thread.isWoken (c : Condition) (th : Thread ι) : Bool := th.asleep.isNone && th.stack.head?.any (·.rechecks c)

/-- The threads that were woken and have yet to look. -/
def woken (c : Condition) (ths : List (Thread ι)) : Nat := ths.countP (Thread.isWoken c)

/-- A thread before and after a notification. -/
structure Stirred (th th' : Thread ι) : Prop where
  stack : th'.stack = th.stack
  asleep : th'.asleep = th.asleep ∨ th'.asleep = none

theorem Stirred.refl (th : Thread ι) : Stirred th th := ⟨rfl, .inl rfl⟩

theorem stirred_awake (th : Thread ι) : Stirred th th.awake := ⟨rfl, .inr rfl⟩

theorem forall₂_set {α : Type} {R : α → α → Prop} (hR : ∀ a, R a a) {a b : α} (hab : R a b) :
    ∀ {l : List α} {n : Nat}, l[n]? = some a → List.Forall₂ R l (l.set n b)
  | [], _, h => by simp at h
  | x :: l, 0, h => by
    simp only [List.getElem?_cons_zero, Option.some.injEq] at h
    subst h
    exact .cons hab (List.forall₂_same.2 fun y _ => hR y)
  | x :: l, n + 1, h => .cons (hR x) (forall₂_set hR hab (by simpa using h))

/-- A notification only wakes. -/
theorem wake_stirs {ths ths' : List (Thread ι)} {sleeper : Option ThreadId} {k : Wake}
    (h : wake ths sleeper k = some ths') : List.Forall₂ Stirred ths ths' := by
  have hsame : List.Forall₂ Stirred ths ths := List.forall₂_same.2 fun th _ => .refl th
  cases k with
  | nobody =>
    simp only [wake] at h
    split at h <;> cases h
    exact hsame
  | all c =>
    simp only [wake] at h
    split at h <;> cases h
    refine List.forall₂_map_right_iff.2 (List.forall₂_same.2 fun th _ => ?_)
    split
    · exact stirred_awake th
    · exact .refl th
  | one c =>
    simp only [wake] at h
    split at h
    · split at h <;> cases h
      exact hsame
    · split at h
      · rename_i w th hw
        split at h <;> cases h
        exact forall₂_set Stirred.refl (stirred_awake th) hw
      · cases h

/-- Waking up only adds to the woken. -/
theorem woken_le_of_stirred {c : Condition} {ths ths' : List (Thread ι)} (h : List.Forall₂ Stirred ths ths') :
    woken c ths ≤ woken c ths' := by
  induction h with
  | nil => exact Nat.le_refl 0
  | @cons a b l l' hab _ ih =>
    have hone : a.isWoken c = true → b.isWoken c = true := by
      intro ha
      simp only [Thread.isWoken, Bool.and_eq_true, Option.isNone_iff_eq_none] at ha ⊢
      refine ⟨?_, hab.stack ▸ ha.2⟩
      rcases hab.asleep with he | he <;> simp [he, ha.1]
    simp only [woken, List.countP_cons] at ih ⊢
    split <;> split <;> simp_all
    omega

/-- Who sleeps after a notification slept before. -/
theorem asleep_of_stirred {c : Condition} {ths ths' : List (Thread ι)} (h : List.Forall₂ Stirred ths ths')
    {th' : Thread ι} (hmem : th' ∈ ths') (hsleep : th'.asleep = some c) :
    ∃ th ∈ ths, th.stack = th'.stack ∧ th.asleep = some c := by
  induction h with
  | nil => cases hmem
  | @cons a b l l' hab _ ih =>
    rcases List.mem_cons.1 hmem with rfl | hmem
    · refine ⟨a, List.mem_cons_self, hab.stack.symm, ?_⟩
      rcases hab.asleep with he | he
      · rw [← he, hsleep]
      · rw [he] at hsleep
        cases hsleep
    · obtain ⟨th, hth, hrest⟩ := ih hmem
      exact ⟨th, List.mem_cons_of_mem _ hth, hrest⟩

/-- After a notification to all, nobody sleeps. -/
theorem wake_all {c : Condition} {ths ths' : List (Thread ι)} {sleeper : Option ThreadId}
    (h : wake ths sleeper (.all c) = some ths') : ∀ th ∈ ths', th.asleep ≠ some c := by
  simp only [wake] at h
  split at h <;> cases h
  intro th hth
  obtain ⟨th₀, -, rfl⟩ := List.mem_map.1 hth
  split
  · simp [Thread.awake]
  · rename_i hno
    simpa [Thread.sleepsOn] using hno

/-- After a notification to one, nobody sleeps or there is one woken thread more. -/
theorem wake_one {c : Condition} {ths ths' : List (Thread ι)} {sleeper : Option ThreadId}
    (h : wake ths sleeper (.one c) = some ths')
    (hhead : ∀ th ∈ ths, th.asleep = some c → th.stack.head?.any (·.rechecks c) = true) :
    (∀ th ∈ ths', th.asleep ≠ some c) ∨ woken c ths' = woken c ths + 1 := by
  cases sleeper with
  | none =>
    simp only [wake] at h
    split at h
    · cases h
    · rename_i hno
      cases h
      exact .inl fun th hth hs => hno (List.any_eq_true.2 ⟨th, hth, by simp [Thread.sleepsOn, hs]⟩)
  | some w =>
    simp only [wake] at h
    split at h
    · rename_i th hw
      split at h
      · rename_i hs
        cases h
        obtain ⟨hlt, rfl⟩ := List.getElem?_eq_some_iff.1 hw
        have hsleep : ths[w].asleep = some c := by simpa [Thread.sleepsOn] using hs
        have hbefore : ths[w].isWoken c = false := by simp [Thread.isWoken, hsleep]
        have hafter : ths[w].awake.isWoken c = true := by
          simp only [Thread.isWoken, Thread.awake, Option.isNone_none, Bool.true_and]
          exact hhead _ (List.getElem_mem hlt) hsleep
        refine .inr ?_
        rw [woken, List.countP_set hlt, hbefore, hafter]
        simp [woken]
      · cases h
    · cases h

/-! ## Wakeups and what there is to wake up for -/

/-- With `k` wakeups under way, a sleeper on `c` may be left alone: there is no room that a wakeup would not use up, or
no item that a wakeup would not take. -/
def Served (u : Setup ι) (b : Buffer ι) (k : Nat) : Condition → Prop
  | .notFull => ∃ n, u.capacity = some n ∧ n ≤ b.items.length + k
  | .notEmpty => b.items.length ≤ k
  | .resolved => True

theorem Served.mono {u : Setup ι} {b b' : Buffer ι} {k k' : Nat} {c : Condition} (h : Served u b k c)
    (hitems : b'.items = b.items) (hk : k ≤ k') : Served u b' k' c := by
  cases c with
  | notFull =>
    obtain ⟨n, hn, hle⟩ := h
    exact ⟨n, hn, by rw [hitems]; omega⟩
  | notEmpty =>
    have hle : b.items.length ≤ k := h
    show b'.items.length ≤ k'
    rw [hitems]
    omega
  | resolved => trivial

/-- A full buffer leaves no room. -/
theorem served_of_full {u : Setup ι} {b : Buffer ι} (h : b.hasRoom u.capacity = false) (k : Nat) :
    Served u b k .notFull := by
  cases hc : u.capacity with
  | none => simp [Buffer.hasRoom, hc] at h
  | some n =>
    simp only [Buffer.hasRoom, hc, decide_eq_false_iff_not] at h
    exact ⟨n, hc, by omega⟩

section Acts

variable {u : Setup ι} {sh : Shared ι} {t : ThreadId} {i : Instr ι} {e : Effect ι} {c : Condition}

theorem Instr.notifies_of_isPlain (h : i.isPlain = true) : i.notifies c = 0 := by
  cases i <;> simp_all [Instr.isPlain, Instr.notifies]

theorem Instr.rechecks_of_isPlain (h : i.isPlain = true) (hb : i.bid? = none) (hc : c ≠ .resolved) :
    i.rechecks c = false := by
  cases i <;> cases c <;> simp_all [Instr.isPlain, Instr.rechecks, Instr.bid?]

theorem Instr.notifies_of_bid {b : Bid ι} (h : i.bid? = some b) : i.notifies c = 0 :=
  Instr.notifies_of_isPlain (Instr.isPlain_of_bid h)

theorem Instr.rechecks_of_bid {b : Bid ι} (h : i.bid? = some b) : i.rechecks .notEmpty = false := by
  cases i <;> simp_all [Instr.rechecks, Instr.bid?]

theorem Instr.notifies_of_isSeek (h : i.isSeek = true) : i.notifies c = 0 := by
  cases i <;> simp_all [Instr.isSeek, Instr.notifies]

theorem Instr.rechecks_of_isSeek (h : i.isSeek = true) : i.rechecks .notFull = false := by
  cases i <;> simp_all [Instr.rechecks, Instr.isSeek]

/-- How an act that leaves the queue open changes what there is to wake up for: it takes away no more than it adds to
the notifications owed, the woken thread that acts and the notification it gives included. -/
theorem Act.served (hact : Act u sh t i e) (hpoison : c = .notFull → sh.buffer.poisoned = false)
    (hopen : e.shared.buffer.value.isClosed = false) (hc : c ≠ .resolved) {k : Nat}
    (h : Served u sh.buffer.value (k + (i.rechecks c).toNat + i.notifies c) c) :
    Served u e.shared.buffer.value
      (k + load (Instr.notifies c) e.push + if e.wake = .one c then 1 else 0) c := by
  -- where the items stay, it is enough that the thread was not woken for them and passes on what it owes
  have frame : e.shared.buffer.value.items = sh.buffer.value.items → i.rechecks c = false →
      i.notifies c ≤ load (Instr.notifies c) e.push + (if e.wake = .one c then 1 else 0) →
      Served u e.shared.buffer.value (k + load (Instr.notifies c) e.push + if e.wake = .one c then 1 else 0) c := by
    intro hitems hre hle
    refine h.mono hitems ?_
    rw [hre, Bool.toNat_false]
    omega
  have hone := i.rechecks_le_one c
  cases hact with
  | @accept i bid r hi _ hroom =>
    cases c with
    | notFull =>
      obtain ⟨n, hn, hle⟩ := h
      rw [Instr.notifies_of_bid hi] at hle
      refine ⟨n, hn, ?_⟩
      simp [Instr.notifies]
      omega
    | notEmpty =>
      have hle : sh.buffer.value.items.length ≤ _ := h
      rw [Instr.notifies_of_bid hi, Instr.rechecks_of_bid hi] at hle
      show (sh.buffer.value.items ++ [bid.item]).length ≤ _
      simp [Instr.notifies] at hle ⊢
      omega
    | resolved => trivial
  | @await i bid hi _ hfull =>
    cases c with
    | notFull => exact served_of_full hfull _
    | notEmpty => exact frame rfl (Instr.rechecks_of_bid hi) (by simp [Instr.notifies_of_bid hi])
    | resolved => trivial
  | refuse hi hwhy hsame hpush =>
    have hbuf := hsame.buffer
    cases c with
    | notFull =>
      rcases hwhy with hclosed | hfull | hp
      · rw [hbuf, hclosed] at hopen
        cases hopen
      · exact served_of_full (hbuf.symm ▸ hfull) _
      · exact absurd (hp.symm.trans (hpoison rfl)) (by decide)
    | notEmpty => exact frame (by rw [hbuf]) (Instr.rechecks_of_bid hi) (by simp [Instr.notifies_of_bid hi])
    | resolved => trivial
  | @take i x rest hi _ hitems =>
    cases c with
    | notFull =>
      obtain ⟨n, hn, hle⟩ := h
      rw [Instr.notifies_of_isSeek hi, Instr.rechecks_of_isSeek hi, hitems] at hle
      refine ⟨n, hn, ?_⟩
      simp [Instr.notifies] at hle ⊢
      omega
    | notEmpty =>
      have hle : sh.buffer.value.items.length ≤ _ := h
      rw [Instr.notifies_of_isSeek hi, hitems] at hle
      show rest.length ≤ _
      simp [Instr.notifies] at hle ⊢
      omega
    | resolved => trivial
  | idle hi _ hitems =>
    cases c with
    | notFull => exact frame rfl (Instr.rechecks_of_isSeek hi) (by simp [Instr.notifies_of_isSeek hi])
    | notEmpty =>
      show sh.buffer.value.items.length ≤ _
      simp [hitems]
    | resolved => trivial
  | leave hi hwhy =>
    have hclosed : sh.buffer.value.isClosed = true := by
      rcases hwhy with hd | ⟨ha, -⟩ <;> simp [Buffer.isClosed, *]
    rw [hclosed] at hopen
    cases hopen
  | complete => simp [Buffer.isClosed] at hopen
  | close => simp [Buffer.isClosed] at hopen
  | other hi hb hsame =>
    exact frame (by rw [hsame.buffer]) (Instr.rechecks_of_isPlain hi hb hc) (by simp [Instr.notifies_of_isPlain hi])
  | notifyOne =>
    refine frame rfl (by cases c <;> rfl) ?_
    simp [Instr.notifies]
  | handled => exact frame (by simp) (by cases c <;> rfl) (Nat.zero_le _)
  | _ => exact frame rfl (by cases c <;> rfl) (Nat.zero_le _)

/-- Whether there is nothing left to wait for on a condition: the queue is closed, or the completion result is there. -/
def Condition.isUp (c : Condition) (s : Shared ι) : Bool :=
  match c with
  | .resolved => s.result.isSome
  | _ => s.buffer.value.isClosed

theorem Condition.isUp_of_ne (hc : c ≠ .resolved) (s : Shared ι) : c.isUp s = s.buffer.value.isClosed := by
  cases c with
  | resolved => exact absurd rfl hc
  | _ => rfl

theorem Condition.isUp_congr {s s' : Shared ι} (hbuf : s'.buffer.value = s.buffer.value)
    (hresult : s'.result = s.result) (c : Condition) : c.isUp s' = c.isUp s := by
  cases c with
  | resolved => exact congrArg Option.isSome hresult
  | _ => exact congrArg Buffer.isClosed hbuf

/-- Who puts an end to what threads wait for has then to wake all. -/
theorem Act.isUp_cases (hact : Act u sh t i e) (c : Condition) :
    c.isUp e.shared = c.isUp sh ∨ c.isUp e.shared = true ∧ .notifyAll c ∈ e.push := by
  cases hact with
  | complete =>
    cases c with
    | resolved => exact .inl rfl
    | _ => exact .inr ⟨by simp [Condition.isUp, Buffer.isClosed], by simp⟩
  | close =>
    cases c with
    | resolved => exact .inl rfl
    | _ => exact .inr ⟨by simp [Condition.isUp, Buffer.isClosed], by simp⟩
  | resolve _ _ hall =>
    cases c with
    | resolved => exact .inr ⟨rfl, hall⟩
    | _ => exact .inl rfl
  | refuse _ _ hsame => exact .inl (c.isUp_congr hsame.buffer hsame.result)
  | other _ _ hsame => exact .inl (c.isUp_congr hsame.buffer hsame.result)
  | handled => exact .inl (c.isUp_congr (by simp) (by simp))
  | _ => cases c <;> exact .inl rfl

theorem Shared.Same.unpoisoned {sh sh' : Shared ι} (hsame : sh.Same sh') (h : sh'.buffer.poisoned = false) :
    sh.buffer.poisoned = false := by
  by_contra hne
  rw [hsame.poisoned (by simpa using hne)] at h
  cases h

theorem Act.poisoned (hact : Act u sh t i e) (h : e.shared.buffer.poisoned = false) :
    sh.buffer.poisoned = false := by
  cases hact with
  | refuse _ _ hsame => exact hsame.unpoisoned h
  | other _ _ hsame => exact hsame.unpoisoned h
  | handled => simpa using h
  | _ => exact h

/-- A thread that falls asleep will look again; it does so only where there is something to wait for, and nothing for it
yet. -/
theorem Act.asleep (hact : Act u sh t i e) (h : e.asleep = some c) :
    (∃ j, e.push = [j] ∧ j.rechecks c = true) ∧ c.isUp e.shared = false ∧
      ∀ k, Served u e.shared.buffer.value k c := by
  cases hact with
  | await _ hopen hfull =>
    cases h
    exact ⟨⟨_, rfl, rfl⟩, hopen, served_of_full hfull⟩
  | idle _ hopen hitems =>
    cases h
    exact ⟨⟨_, rfl, rfl⟩, hopen, fun k => by simp [Served, hitems]⟩
  | refuse _ _ _ _ _ hasleep => rw [hasleep] at h; cases h
  | other _ _ hsame _ _ hasleep =>
    rcases hasleep with hno | ⟨hres, hnone, d, hd⟩
    · rw [hno] at h
      cases h
    · rw [hres] at h
      cases h
      exact ⟨⟨_, hd, rfl⟩, by rw [Condition.isUp, hsame.result, hnone]; rfl, fun _ => trivial⟩
  | _ => cases h

theorem Act.wake_all (hact : Act u sh t (.notifyAll c) e) : e.wake = .all c := by
  cases hact with
  | notifyAll => rfl
  | accept hi => cases hi
  | await hi => cases hi
  | refuse hi => cases hi
  | take hi => cases hi
  | idle hi => cases hi
  | leave hi => cases hi
  | other _ _ _ _ _ _ hquiet => exact absurd rfl (hquiet c)

end Acts

/-! ## The invariant -/

/-- Whoever sleeps will look again. -/
def WillLook (s : State ι) : Prop :=
  ∀ th ∈ s.threads, ∀ c, th.asleep = some c → th.stack.head?.any (·.rechecks c) = true

/-- While somebody sleeps on `c` and the queue is open, enough wakeups are under way. -/
def Ajar (u : Setup ι) (c : Condition) (s : State ι) : Prop :=
  (∃ th ∈ s.threads, th.asleep = some c) → s.shared.buffer.value.isClosed = false →
    Served u s.shared.buffer.value (woken c s.threads + total (Instr.notifies c) s.stacks) c

/-- While somebody sleeps on `c` and there is nothing left to wait for, a thread has still to wake all. -/
def Roused (c : Condition) (s : State ι) : Prop :=
  (∃ th ∈ s.threads, th.asleep = some c) → c.isUp s.shared = true → ∃ t, .notifyAll c ∈ stackAt s.stacks t

section Moves

variable {u : Setup ι} {s s' : State ι} {c : Condition}

/-- Whoever sleeps after an act, before its notification, will look again. -/
theorem WillLook.act (h : WillLook s) {t : ThreadId} {th : Thread ι} {i : Instr ι} {rest : List (Instr ι)}
    {e : Effect ι} (hact : Act u s.shared t i e) :
    ∀ th' ∈ s.threads.set t (th.after rest e), ∀ c, th'.asleep = some c →
      th'.stack.head?.any (·.rechecks c) = true := by
  intro th' hth' c hsleep
  rcases List.mem_or_eq_of_mem_set hth' with hold | rfl
  · exact h th' hold c hsleep
  · obtain ⟨⟨j, hj, hre⟩, -⟩ := hact.asleep hsleep
    simp [Thread.after, hj, hre]

theorem Moves.willLook (m : Moves u s s') (h : WillLook s) : WillLook s' := by
  cases m with
  | act _ _ _ hact hwake =>
    intro th' hth' c hsleep
    obtain ⟨th₀, hth₀, hstack, hsleep₀⟩ := asleep_of_stirred (wake_stirs hwake) hth' hsleep
    exact hstack ▸ h.act hact th₀ hth₀ c hsleep₀
  | @rouse t th ht hasleep =>
    intro th' hth' c hsleep
    rcases List.mem_or_eq_of_mem_set hth' with hold | rfl
    · exact h th' hold c hsleep
    · cases hsleep
  | @answer t th role label rest script ht hst =>
    intro th' hth' c hsleep
    rcases List.mem_or_eq_of_mem_set hth' with hold | rfl
    · exact h th' hold c hsleep
    · have := h th (List.mem_of_getElem? ht) c hsleep
      rw [hst] at this
      cases c <;> simp [Instr.rechecks] at this
  | spawn script =>
    intro th' hth' c hsleep
    rcases List.mem_append.1 hth' with hold | hnew
    · exact h th' hold c hsleep
    · rw [List.mem_singleton.1 hnew] at hsleep
      cases hsleep
  | outside => exact h

theorem Moves.poisoned (m : Moves u s s') (h : s'.shared.buffer.poisoned = false) :
    s.shared.buffer.poisoned = false := by
  cases m with
  | act _ _ _ hact => exact hact.poisoned h
  | outside hsame => exact hsame.unpoisoned h
  | _ => exact h

theorem Reachable.willLook (h : Reachable u s) : WillLook s := by
  refine h.moves_induction (I := WillLook) ?_ fun _ m => m.willLook
  intro th hth c hsleep
  obtain ⟨n, -, rfl⟩ := List.mem_map.1 hth
  cases hsleep

theorem isWoken_le_woken {ths : List (Thread ι)} {t : ThreadId} {th : Thread ι} (ht : ths[t]? = some th) :
    (th.isWoken c).toNat ≤ woken c ths := by
  cases hw : th.isWoken c with
  | false => exact Nat.zero_le _
  | true => exact List.countP_pos_iff.2 ⟨th, List.mem_of_getElem? ht, hw⟩

/-- How the number of the woken changes when one thread does. -/
theorem woken_set {ths : List (Thread ι)} {t : ThreadId} {th : Thread ι} (ht : ths[t]? = some th) (th' : Thread ι) :
    woken c (ths.set t th') + (th.isWoken c).toNat = woken c ths + (th'.isWoken c).toNat := by
  have hpos := isWoken_le_woken (c := c) ht
  obtain ⟨hlt, rfl⟩ := List.getElem?_eq_some_iff.1 ht
  have hset := List.countP_set (p := Thread.isWoken c) (a := th') hlt
  simp only [woken] at hpos ⊢
  rw [hset]
  cases h₁ : ths[t].isWoken c <;> cases h₂ : th'.isWoken c <;> simp_all

/-- Nobody falls asleep on `c` from `s` to `s'`, no fewer wakeups are under way, and the buffer and the result stay as
they are. -/
structure Eased (c : Condition) (s s' : State ι) : Prop where
  buffer : s'.shared.buffer.value = s.shared.buffer.value
  result : s'.shared.result = s.shared.result
  asleep : (∃ th ∈ s'.threads, th.asleep = some c) → ∃ th ∈ s.threads, th.asleep = some c
  woken : woken c s.threads ≤ woken c s'.threads
  owed : total (Instr.notifies c) s.stacks ≤ total (Instr.notifies c) s'.stacks
  all : ∀ t, .notifyAll c ∈ stackAt s.stacks t → .notifyAll c ∈ stackAt s'.stacks t

theorem Eased.ajar (he : Eased c s s') (h : Ajar u c s) : Ajar u c s' := by
  intro hs hopen
  have hle := Nat.add_le_add he.woken he.owed
  exact (h (he.asleep hs) (he.buffer ▸ hopen)).mono (by rw [he.buffer]) hle

theorem Eased.roused (he : Eased c s s') (h : Roused c s) : Roused c s' := by
  intro hs hup
  obtain ⟨t, ht⟩ := h (he.asleep hs) (c.isUp_congr he.buffer he.result ▸ hup)
  exact ⟨t, he.all t ht⟩

theorem eased_rouse {t : ThreadId} {th : Thread ι} (ht : s.threads[t]? = some th) :
    Eased c s { s with threads := s.threads.set t th.awake } := by
  have hstir := forall₂_set Stirred.refl (stirred_awake th) ht
  have hstacks := stacks_of_awake ht
  constructor
  · rfl
  · rfl
  · rintro ⟨th', hth', hsleep⟩
    obtain ⟨th₀, hth₀, -, hsleep₀⟩ := asleep_of_stirred hstir hth' hsleep
    exact ⟨th₀, hth₀, hsleep₀⟩
  · exact woken_le_of_stirred hstir
  · rw [hstacks]
  · intro t' ht'
    rw [hstacks]
    exact ht'

theorem eased_answer {t : ThreadId} {th : Thread ι} {role : Role ι} {label : String} {rest : List (Instr ι)}
    (script : Script ι) (ht : s.threads[t]? = some th) (hst : th.stack = .run role (.pause label) :: rest) :
    Eased c s { s with threads := s.threads.set t { th with stack := .run role script :: rest } } := by
  have hget : s.stacks[t]? = some (.run role (.pause label) :: rest) := by rw [getElem?_stacks ht, hst]
  constructor
  · rfl
  · rfl
  · rintro ⟨th', hth', hsleep⟩
    rcases List.mem_or_eq_of_mem_set hth' with hold | rfl
    · exact ⟨th', hold, hsleep⟩
    · exact ⟨th, List.mem_of_getElem? ht, hsleep⟩
  · have hno : th.isWoken c = false := by cases c <;> simp [Thread.isWoken, hst, Instr.rechecks]
    have := woken_set (c := c) ht { th with stack := .run role script :: rest }
    rw [hno, Bool.toNat_false] at this
    dsimp only
    omega
  · have := total_set (w := Instr.notifies c) (.run role script :: rest) hget
    rw [stacks_of_answer]
    simp only [load_cons, Instr.notifies] at this
    omega
  · intro t' ht'
    rw [stacks_of_answer, stackAt_set hget]
    split
    · rename_i htt
      rw [htt, stackAt_of_getElem? hget] at ht'
      simpa using ht'
    · exact ht'

theorem eased_spawn (script : Script ι) : Eased c s (s.spawn script) := by
  constructor
  · rfl
  · rfl
  · rintro ⟨th', hth', hsleep⟩
    rcases List.mem_append.1 hth' with hold | hnew
    · exact ⟨th', hold, hsleep⟩
    · rw [List.mem_singleton.1 hnew] at hsleep
      cases hsleep
  · simp [Queue.woken, State.spawn]
  · rw [stacks_spawn, total_append]
    exact Nat.le_add_right _ _
  · intro t' ht'
    rw [stacks_spawn, stackAt_append]
    split
    · rename_i htt
      simp [htt, stackAt] at ht'
    · exact ht'

theorem eased_outside {sh : Shared ι} (hsame : s.shared.Same sh) : Eased c s { s with shared := sh } :=
  ⟨hsame.buffer, hsame.result, id, Nat.le_refl _, Nat.le_refl _, fun _ => id⟩

section Act

variable {t : ThreadId} {th : Thread ι} {i : Instr ι} {rest : List (Instr ι)} {e : Effect ι}
  {sleeper : Option ThreadId} {ths : List (Thread ι)}

/-- Who sleeps after an act has just fallen asleep, where there is nothing to do, or slept before. -/
theorem sleepers_before (hact : Act u s.shared t i e)
    (hwake : wake (s.threads.set t (th.after rest e)) sleeper e.wake = some ths)
    (hs : ∃ th ∈ ths, th.asleep = some c) :
    (c.isUp e.shared = false ∧ ∀ k, Served u e.shared.buffer.value k c) ∨ ∃ th ∈ s.threads, th.asleep = some c := by
  obtain ⟨th', hth', hsleep⟩ := hs
  obtain ⟨th₀, hth₀, -, hsleep₀⟩ := asleep_of_stirred (wake_stirs hwake) hth' hsleep
  rcases List.mem_or_eq_of_mem_set hth₀ with hold | rfl
  · exact .inr ⟨th₀, hold, hsleep₀⟩
  · exact .inl (hact.asleep hsleep₀).2

/-- A notification to one of several sleepers turns into a woken thread. -/
theorem WillLook.woken_le (hlook : WillLook s) (hact : Act u s.shared t i e)
    (hwake : wake (s.threads.set t (th.after rest e)) sleeper e.wake = some ths)
    (hs : ∃ th ∈ ths, th.asleep = some c) :
    woken c (s.threads.set t (th.after rest e)) + (if e.wake = .one c then 1 else 0) ≤ woken c ths := by
  split
  · rename_i hone
    rw [hone] at hwake
    rcases wake_one hwake fun th' hth' => hlook.act hact th' hth' c with hnobody | heq
    · obtain ⟨th', hth', hsleep⟩ := hs
      exact absurd hsleep (hnobody th' hth')
    · exact heq.ge
  · exact woken_le_of_stirred (wake_stirs hwake)

/-- An act keeps enough wakeups under way. Once the lock is poisoned this is so for workers only: a bid then comes back
without having used the room that it was woken for. -/
theorem Ajar.act (h : Ajar u c s) (hlook : WillLook s) (hc : c ≠ .resolved)
    (hpoison : c = .notFull → s.shared.buffer.poisoned = false) (ht : s.threads[t]? = some th)
    (hawake : th.asleep = none) (hst : th.stack = i :: rest) (hact : Act u s.shared t i e)
    (hwake : wake (s.threads.set t (th.after rest e)) sleeper e.wake = some ths) : Ajar u c ⟨e.shared, ths⟩ := by
  intro hs hopen
  rw [stacks_of_wake hwake]
  rcases sleepers_before hact hwake hs with ⟨-, hserved⟩ | hold
  · exact hserved _
  have hget : s.stacks[t]? = some (i :: rest) := by rw [getElem?_stacks ht, hst]
  have hopen₀ : s.shared.buffer.value.isClosed = false := by
    rw [← c.isUp_of_ne hc] at hopen ⊢
    rcases hact.isUp_cases c with heq | ⟨htrue, -⟩
    · exact heq ▸ hopen
    · exact absurd (htrue.symm.trans hopen) (by decide)
  have hserved := h hold hopen₀
  -- the woken and the owed before the act, after it, and after its notification
  have hself : th.isWoken c = i.rechecks c := by simp [Thread.isWoken, hawake, hst]
  have hset := woken_set (c := c) ht (th.after rest e)
  have hle := isWoken_le_woken (c := c) ht
  have hwoken := hlook.woken_le hact hwake hs
  have htotal := total_set (w := Instr.notifies c) (e.push ++ rest) hget
  have hload := load_le_total (w := Instr.notifies c) (List.mem_of_getElem? hget)
  rw [hself] at hset hle
  rw [load_cons, load_append] at htotal
  rw [load_cons] at hload
  obtain ⟨k, hk⟩ : ∃ k, woken c s.threads + total (Instr.notifies c) s.stacks =
      k + (i.rechecks c).toNat + i.notifies c :=
    ⟨woken c s.threads + total (Instr.notifies c) s.stacks - (i.rechecks c).toNat - i.notifies c, by omega⟩
  rw [hk] at hserved
  show Served u e.shared.buffer.value (woken c ths + total (Instr.notifies c) (s.stacks.set t (e.push ++ rest))) c
  exact (hact.served hpoison hopen hc hserved).mono rfl (by omega)

/-- An act after which there is nothing left to wait for leaves somebody to wake all. -/
theorem Roused.act (h : Roused c s) (ht : s.threads[t]? = some th) (hst : th.stack = i :: rest)
    (hact : Act u s.shared t i e) (hwake : wake (s.threads.set t (th.after rest e)) sleeper e.wake = some ths) :
    Roused c ⟨e.shared, ths⟩ := by
  intro hs hup
  rw [stacks_of_wake hwake]
  have hget : s.stacks[t]? = some (i :: rest) := by rw [getElem?_stacks ht, hst]
  rcases sleepers_before hact hwake hs with ⟨hno, -⟩ | hold
  · exact absurd (hno.symm.trans hup) (by decide)
  rcases hact.isUp_cases c with heq | ⟨-, hall⟩
  · obtain ⟨t₀, ht₀⟩ := h hold (heq ▸ hup)
    by_cases htt : t₀ = t
    · subst htt
      rw [stackAt_of_getElem? hget] at ht₀
      rcases List.mem_cons.1 ht₀ with rfl | hin
      · -- all are woken now
        rw [hact.wake_all] at hwake
        obtain ⟨th', hth', hsleep⟩ := hs
        exact absurd hsleep (wake_all hwake th' hth')
      · exact ⟨t₀, by rw [stackAt_set hget, if_pos rfl]; exact List.mem_append_right _ hin⟩
    · exact ⟨t₀, by rw [stackAt_set hget, if_neg htt]; exact ht₀⟩
  · exact ⟨t, by rw [stackAt_set hget, if_pos rfl]; exact List.mem_append_left _ hall⟩

end Act

theorem Moves.ajar (m : Moves u s s') (h : Ajar u c s) (hlook : WillLook s) (hc : c ≠ .resolved)
    (hpoison : c = .notFull → s.shared.buffer.poisoned = false) : Ajar u c s' := by
  cases m with
  | act ht hawake hst hact hwake => exact h.act hlook hc hpoison ht hawake hst hact hwake
  | rouse ht => exact (eased_rouse ht).ajar h
  | answer ht hst => exact (eased_answer _ ht hst).ajar h
  | spawn script => exact (eased_spawn script).ajar h
  | outside hsame => exact (eased_outside hsame).ajar h

theorem Moves.roused (m : Moves u s s') (h : Roused c s) : Roused c s' := by
  cases m with
  | act ht hawake hst hact hwake => exact h.act ht hst hact hwake
  | rouse ht => exact (eased_rouse ht).roused h
  | answer ht hst => exact (eased_answer _ ht hst).roused h
  | spawn script => exact (eased_spawn script).roused h
  | outside hsame => exact (eased_outside hsame).roused h

theorem start_awake (u : Setup ι) (c : Condition) : ¬ ∃ th ∈ u.start.threads, th.asleep = some c := by
  rintro ⟨th, hth, hsleep⟩
  obtain ⟨n, -, rfl⟩ := List.mem_map.1 hth
  cases hsleep

/-- Enough wakeups are under way, for producers as long as the lock is not poisoned. -/
theorem Reachable.ajar (h : Reachable u s) (hc : c ≠ .resolved)
    (hpoison : c = .notFull → s.shared.buffer.poisoned = false) : Ajar u c s := by
  refine h.moves_induction (I := fun s => (c = .notFull → s.shared.buffer.poisoned = false) → Ajar u c s) ?_ ?_ hpoison
  · intro _ hs
    exact absurd hs (start_awake u c)
  · intro s s' hr m ih hp
    have hp₀ : c = .notFull → s.shared.buffer.poisoned = false := fun hc => m.poisoned (hp hc)
    exact m.ajar (ih hp₀) hr.willLook hc hp₀

/-- Where there is nothing left to wait for, all are going to be woken. -/
theorem Reachable.roused (h : Reachable u s) : Roused c s := by
  refine h.moves_induction (I := Roused c) ?_ fun _ m ih => m.roused ih
  intro hs
  exact absurd hs (start_awake u c)

end Moves

/-! ## No lost wakeup -/

/-- Whether the instruction is a notification of a condition that is still owed. -/
def Instr.isNotification (c : Condition) : Instr ι → Bool
  | .notifyOne c' => c' = c
  | .notifyAll c' => c' = c
  | _ => false

/-- No notification of the condition is owed, and nobody who was woken has yet to look. -/
structure Still (c : Condition) (s : State ι) : Prop where
  unowed : ∀ th ∈ s.threads, ∀ i ∈ th.stack, i.isNotification c = false
  looked : ∀ th ∈ s.threads, th.isWoken c = false

instance (c : Condition) (s : State ι) : Decidable (Still c s) :=
  decidable_of_iff ((∀ th ∈ s.threads, ∀ i ∈ th.stack, i.isNotification c = false) ∧
      ∀ th ∈ s.threads, th.isWoken c = false)
    ⟨fun h => ⟨h.1, h.2⟩, fun h => ⟨h.unowed, h.looked⟩⟩

section Reachable

variable {u : Setup ι} {s : State ι} {c : Condition}

theorem Still.woken_eq_zero (h : Still c s) : woken c s.threads = 0 :=
  List.countP_eq_zero.2 fun th hth => by simp [h.looked th hth]

theorem Still.total_eq_zero (h : Still c s) : total (Instr.notifies c) s.stacks = 0 := by
  refine Queue.total_eq_zero fun th hth i hi => ?_
  have := h.unowed th hth i hi
  cases i <;> simp_all [Instr.isNotification, Instr.notifies]

/-- With no wakeup under way, a sleeper has something to wait for. -/
theorem Reachable.not_isUp_of_still (h : Reachable u s) (hstill : Still c s)
    (hsleep : ∃ th ∈ s.threads, th.asleep = some c) : c.isUp s.shared = false := by
  by_contra hup
  obtain ⟨t, ht⟩ := h.roused hsleep (by simpa using hup)
  obtain ⟨st, hst, hi⟩ := mem_of_stackAt ht
  obtain ⟨th, hth, rfl⟩ := List.mem_map.1 hst
  have := hstill.unowed th hth _ hi
  simp [Instr.isNotification] at this

/-- With no wakeup under way, a sleeper is in an open queue that has nothing for it. -/
theorem Reachable.served_of_still (h : Reachable u s) (hc : c ≠ .resolved)
    (hpoison : c = .notFull → s.shared.buffer.poisoned = false) (hstill : Still c s)
    (hsleep : ∃ th ∈ s.threads, th.asleep = some c) :
    s.shared.buffer.value.isClosed = false ∧ Served u s.shared.buffer.value 0 c := by
  have hopen := (c.isUp_of_ne hc _).symm.trans (h.not_isUp_of_still hstill hsleep)
  have hserved := h.ajar hc hpoison hsleep hopen
  rw [hstill.woken_eq_zero, hstill.total_eq_zero] at hserved
  exact ⟨hopen, hserved⟩

/-- A sleeping producer is at a bid. -/
theorem Reachable.stack_of_notFull (h : Reachable u s) {th : Thread ι} (hth : th ∈ s.threads)
    (hsleep : th.asleep = some .notFull) : ∃ bid rest, th.stack = .retry bid :: rest := by
  have := h.willLook th hth _ hsleep
  cases hst : th.stack with
  | nil => simp [hst] at this
  | cons i rest => cases i <;> simp_all [Instr.rechecks]

/-- A sleeping worker is at a look for an item. -/
theorem Reachable.stack_of_notEmpty (h : Reachable u s) {th : Thread ι} (hth : th ∈ s.threads)
    (hsleep : th.asleep = some .notEmpty) : ∃ rest, th.stack = .retake :: rest := by
  have := h.willLook th hth _ hsleep
  cases hst : th.stack with
  | nil => simp [hst] at this
  | cons i rest => cases i <;> simp_all [Instr.rechecks]

/-- With no notification owed and no woken thread that has yet to look, every sleeping producer is at a bid in an open
queue without room, and every sleeping worker at an open queue without items. So no worker sleeps while there is an
item, and no producer while there is room or the queue is closed. -/
theorem no_lost_wakeup (h : Reachable u s) (hpoison : s.shared.buffer.poisoned = false) :
    (Still .notFull s → ∀ th ∈ s.threads, th.asleep = some .notFull →
      (∃ bid rest, th.stack = .retry bid :: rest) ∧ s.shared.buffer.value.hasRoom u.capacity = false ∧
        s.shared.buffer.value.addingCompleted = false ∧ s.shared.buffer.value.disposed = false) ∧
    (Still .notEmpty s → ∀ th ∈ s.threads, th.asleep = some .notEmpty →
      (∃ rest, th.stack = .retake :: rest) ∧ s.shared.buffer.value.items = [] ∧
        s.shared.buffer.value.addingCompleted = false ∧ s.shared.buffer.value.disposed = false) ∧
    (Still .notEmpty s → s.shared.buffer.value.items ≠ [] → ∀ th ∈ s.threads, th.asleep ≠ some .notEmpty) ∧
    (Still .notFull s → s.shared.buffer.value.hasRoom u.capacity = true ∨ s.shared.buffer.value.isClosed = true →
      ∀ th ∈ s.threads, th.asleep ≠ some .notFull) := by
  have full : Still .notFull s → ∀ th ∈ s.threads, th.asleep = some .notFull →
      s.shared.buffer.value.isClosed = false ∧ s.shared.buffer.value.hasRoom u.capacity = false := by
    intro hstill th hth hsleep
    obtain ⟨hopen, n, hn, hle⟩ := h.served_of_still (by decide) (fun _ => hpoison) hstill ⟨th, hth, hsleep⟩
    refine ⟨hopen, ?_⟩
    simp only [Buffer.hasRoom, hn, decide_eq_false_iff_not]
    omega
  have empty : Still .notEmpty s → ∀ th ∈ s.threads, th.asleep = some .notEmpty →
      s.shared.buffer.value.isClosed = false ∧ s.shared.buffer.value.items = [] := by
    intro hstill th hth hsleep
    obtain ⟨hopen, hle⟩ := h.served_of_still (by decide) (fun _ => hpoison) hstill ⟨th, hth, hsleep⟩
    exact ⟨hopen, List.length_eq_zero_iff.1 (Nat.le_zero.1 hle)⟩
  refine ⟨fun hstill th hth hsleep => ?_, fun hstill th hth hsleep => ?_, fun hstill hitems th hth hsleep => ?_,
    fun hstill hwhy th hth hsleep => ?_⟩
  · obtain ⟨hopen, hfull⟩ := full hstill th hth hsleep
    simp only [Buffer.isClosed, Bool.or_eq_false_iff] at hopen
    exact ⟨h.stack_of_notFull hth hsleep, hfull, hopen.2, hopen.1⟩
  · obtain ⟨hopen, hitems⟩ := empty hstill th hth hsleep
    simp only [Buffer.isClosed, Bool.or_eq_false_iff] at hopen
    exact ⟨h.stack_of_notEmpty hth hsleep, hitems, hopen.2, hopen.1⟩
  · exact hitems (empty hstill th hth hsleep).2
  · obtain ⟨hopen, hfull⟩ := full hstill th hth hsleep
    rcases hwhy with hroom | hclosed
    · rw [hfull] at hroom
      cases hroom
    · rw [hopen] at hclosed
      cases hclosed

end Reachable

/-- The worker is at the first of four items that a client adds; the fourth finds no room. -/
def sampleBlocked : List (Choice Nat) :=
  .spawn (.call (.add .owner 7 none) fun _ => .call (.add .owner 8 none) fun _ => .call (.add .owner 9 none) fun _ =>
    .just (.add .owner 10 none)) :: runs 1 12 ++ runs 0 4 ++ runs 1 8

theorem sample_no_lost_wakeup :
    (after sample sampleBlocked).shared.buffer.poisoned = false ∧ Still .notFull (after sample sampleBlocked) ∧
      (after sample sampleBlocked).threads.map (·.asleep) = [none, some .notFull] ∧
      (after sample sampleBlocked).shared.buffer.value.hasRoom sample.capacity = false ∧
      (after sample sampleBlocked).shared.buffer.value.addingCompleted = false := by
  have hstill : Still .notFull (after sample sampleBlocked) := by decide
  have hsleep : ∃ th ∈ (after sample sampleBlocked).threads, th.asleep = some .notFull := by decide
  obtain ⟨th, hth, hs⟩ := hsleep
  obtain ⟨-, hfull, hadd, -⟩ := (no_lost_wakeup (reachable_after sample sampleBlocked) rfl).1 hstill th hth hs
  exact ⟨rfl, hstill, rfl, hfull, hadd⟩

end Conveyor.Queue
