import Conveyor.Notification.Hub
import Mathlib.Data.List.Induction
import Mathlib.Data.List.Nodup

/-!
# What each receiver obtains

A history is a list of actions on a hub and on the receiving ends of its channels, in any order. A subscription is made
at some moment of it (`Enrolment`); what it is due from then on is what is published while it is in force, its channel
open, and its filter accepting (`due`). Each action leaves the balance between what was due, what was obtained and what
is pending (`pendingOf_act`), and the tally in step with what was due (`tally_act`); nobody else has the subscription's
channel or its tally (`Owns`).

* `whole_delivery`: what a receiver obtains in a history, and what its tally says (`Served`).
-/

namespace Conveyor.Hub

/-! ## Histories -/

/-- What may be done to a hub and to the receiving ends of its channels. -/
inductive Action where
  | subscribe (id : String) (filter : EventFilter) (source : String)
  | unsubscribe (id : String)
  | publish (e : QueueEvent)
  | receive (channel : Nat)
  | close (channel : Nat)
  /-- The receiving end goes away, with what is pending. -/
  | hangUp (channel : Nat)

namespace Action

/-- Whether an action leaves a subscription in force, given whether its channel is open. -/
def spares (s : Subscription) (isOpen : Bool) : Action → Bool
  | .subscribe id _ _ | .unsubscribe id => s.id ≠ id
  | .publish e => !(s.filter.accepts e && !isOpen)
  | _ => true

/-- Whether an action closes channel `n`. -/
def shuts (n : Nat) : Action → Bool
  | .close m | .hangUp m => m = n
  | _ => false

end Action

/-- The hub after an action. -/
def act (h : Hub) : Action → Hub
  | .subscribe id filter source => (h.subscribe id filter source).1
  | .unsubscribe id => (h.unsubscribe id).1
  | .publish e => (h.publish e).1
  | .receive n => (h.receive n).1
  | .close n => h.close n
  | .hangUp n => h.hangUp n

/-- The hub after a history. -/
def run (h : Hub) (as : List Action) : Hub := as.foldl act h

/-- The event that an action sends to the receiver of a subscription. -/
def share (h : Hub) (s : Subscription) : Action → Option QueueEvent
  | .publish e =>
    if s ∈ h.subscriptions ∧ h.isOpen s.channel = true ∧ s.filter.accepts e = true then some e else none
  | _ => none

/-- The event that the receiver of channel `n` gets by an action. -/
def gain (h : Hub) (n : Nat) : Action → Option QueueEvent
  | .receive m => if m = n then (h.receive n).2.toOption else none
  | _ => none

/-- What a history sends to the receiver of a subscription, each event with its place in the history; `k` actions come
before. -/
def due (s : Subscription) : Nat → Hub → List Action → List (Nat × QueueEvent)
  | _, _, [] => []
  | k, h, a :: as => (h.share s a).toList.map (k, ·) ++ due s (k + 1) (h.act a) as

/-- What the receiver of channel `n` gets in the course of a history. -/
def obtained (n : Nat) : Hub → List Action → List QueueEvent
  | _, [] => []
  | h, a :: as => (h.gain n a).toList ++ obtained n (h.act a) as

/-- Whether a history leaves a subscription in force, given whether its channel is open at first. -/
def keeps (s : Subscription) : Bool → List Action → Bool
  | _, [] => true
  | isOpen, a :: as => a.spares s isOpen && keeps s (isOpen && !a.shuts s.channel) as

section Run

variable {h : Hub} {as bs : List Action} {a : Action}

@[simp] theorem run_nil : h.run [] = h := rfl

@[simp] theorem run_cons : h.run (a :: as) = (h.act a).run as := rfl

theorem run_append : h.run (as ++ bs) = (h.run as).run bs := List.foldl_append ..

end Run

/-! ## Ids, channels and tallies -/

/-- No two subscriptions have the same id, and their channels and tallies exist. -/
structure Tidy (h : Hub) : Prop where
  ids : (h.subscriptions.map (·.id)).Nodup
  channel_lt : ∀ s ∈ h.subscriptions, s.channel < h.channels.length
  tally_lt : ∀ s ∈ h.subscriptions, s.tally < h.tallies.length

/-- The channel and the tally of subscription `s` exist, and no other subscription has the one or the other. -/
structure Owns (h : Hub) (s : Subscription) : Prop where
  channel_lt : s.channel < h.channels.length
  tally_lt : s.tally < h.tallies.length
  channel : ∀ s' ∈ h.subscriptions, s'.channel = s.channel → s' = s
  tally : ∀ s' ∈ h.subscriptions, s'.tally = s.tally → s' = s

section Keys

variable {h : Hub} {s s' : Subscription} {as : List Action}

theorem length_channels_act (a : Action) : h.channels.length ≤ (h.act a).channels.length := by
  cases a <;> simp [act, subscribe, unsubscribe, publish, receive, close, hangUp]

theorem length_tallies_act (a : Action) : h.tallies.length ≤ (h.act a).tallies.length := by
  cases a <;> simp [act, subscribe, unsubscribe, publish, receive, close, hangUp]

/-- A subscription that is in force after an action was so before, or is new. -/
theorem mem_of_mem_act {a : Action} (hs : s' ∈ (h.act a).subscriptions) :
    s' ∈ h.subscriptions ∨ s'.channel = h.channels.length ∧ s'.tally = h.tallies.length := by
  cases a with
  | subscribe id filter source =>
    rcases List.mem_append.1 hs with hold | hnew
    · exact .inl (List.mem_filter.1 hold).1
    · rw [List.mem_singleton.1 hnew]
      exact .inr ⟨rfl, rfl⟩
  | unsubscribe id => exact .inl (List.mem_filter.1 hs).1
  | publish e => exact .inl (List.mem_filter.1 hs).1
  | _ => exact .inl hs

theorem tidy_empty : Tidy {} where
  ids := List.nodup_nil
  channel_lt _ hs := nomatch hs
  tally_lt _ hs := nomatch hs

theorem tidy_act (ht : Tidy h) (a : Action) : Tidy (h.act a) where
  ids := by
    have sub : ∀ p : Subscription → Bool, ((h.subscriptions.filter p).map (·.id)).Nodup := fun p =>
      ht.ids.sublist (List.filter_sublist.map _)
    cases a with
    | subscribe id filter source =>
      simp only [act, subscribe, List.map_append, List.map_cons, List.map_nil]
      refine List.nodup_append.2 ⟨sub _, List.nodup_singleton _, ?_⟩
      intro i hi j hj
      obtain ⟨s, hs, rfl⟩ := List.mem_map.1 hi
      rw [List.mem_singleton.1 hj]
      simpa using (List.mem_filter.1 hs).2
    | unsubscribe id => exact sub _
    | publish e => exact sub _
    | _ => exact ht.ids
  channel_lt s hs := by
    have hle := length_channels_act (h := h) a
    rcases mem_of_mem_act hs with hold | ⟨hnew, -⟩
    · exact Nat.lt_of_lt_of_le (ht.channel_lt s hold) hle
    · cases a with
      | subscribe => simp [act, subscribe, hnew]
      | unsubscribe id => exact Nat.lt_of_lt_of_le (ht.channel_lt s (List.mem_filter.1 hs).1) hle
      | publish e => exact Nat.lt_of_lt_of_le (ht.channel_lt s (List.mem_filter.1 hs).1) hle
      | _ => exact Nat.lt_of_lt_of_le (ht.channel_lt s hs) hle
  tally_lt s hs := by
    have hle := length_tallies_act (h := h) a
    rcases mem_of_mem_act hs with hold | ⟨-, hnew⟩
    · exact Nat.lt_of_lt_of_le (ht.tally_lt s hold) hle
    · cases a with
      | subscribe => simp [act, subscribe, hnew]
      | unsubscribe id => exact Nat.lt_of_lt_of_le (ht.tally_lt s (List.mem_filter.1 hs).1) hle
      | publish e => exact Nat.lt_of_lt_of_le (ht.tally_lt s (List.mem_filter.1 hs).1) hle
      | _ => exact Nat.lt_of_lt_of_le (ht.tally_lt s hs) hle

theorem tidy_run (as : List Action) : Tidy (run {} as) := by
  induction as using List.reverseRecOn with
  | nil => exact tidy_empty
  | append_singleton as a ih =>
    rw [run_append]
    exact tidy_act ih a

/-- The subscription that an id finds is the one in force. -/
theorem Tidy.find?_eq (ht : Tidy h) : h.find? s.id = some s ↔ s ∈ h.subscriptions := by
  constructor
  · intro hf
    exact List.mem_of_find?_eq_some hf
  · intro hs
    cases hf : h.find? s.id with
    | none => exact absurd (decide_eq_true rfl) (List.find?_eq_none.1 hf s hs)
    | some s' =>
      have hid : s'.id = s.id := of_decide_eq_true (List.find?_some hf :)
      rw [List.inj_on_of_nodup_map ht.ids (List.mem_of_find?_eq_some hf) hs hid]

theorem owns_act (ho : Owns h s) (a : Action) : Owns (h.act a) s where
  channel_lt := Nat.lt_of_lt_of_le ho.channel_lt (length_channels_act a)
  tally_lt := Nat.lt_of_lt_of_le ho.tally_lt (length_tallies_act a)
  channel s' hs' heq := by
    rcases mem_of_mem_act hs' with hold | ⟨hnew, -⟩
    · exact ho.channel s' hold heq
    · exact absurd ho.channel_lt (by omega)
  tally s' hs' heq := by
    rcases mem_of_mem_act hs' with hold | ⟨-, hnew⟩
    · exact ho.tally s' hold heq
    · exact absurd ho.tally_lt (by omega)

theorem owns_run (ho : Owns h s) (as : List Action) : Owns (h.run as) s := by
  induction as generalizing h with
  | nil => exact ho
  | cons a as ih => exact ih (owns_act ho a)

/-- A new subscription has a channel and a tally of its own. -/
theorem Tidy.owns (ht : Tidy h) (id : String) (filter : EventFilter) (source : String) :
    Owns (h.subscribe id filter source).1 ⟨id, filter, source, h.channels.length, h.tallies.length⟩ where
  channel_lt := by simp [subscribe]
  tally_lt := by simp [subscribe]
  channel s' hs' heq := by
    rcases List.mem_append.1 hs' with hold | hnew
    · have hlt := ht.channel_lt s' (List.mem_filter.1 hold).1
      rw [heq] at hlt
      exact absurd hlt (Nat.lt_irrefl _)
    · exact List.mem_singleton.1 hnew
  tally s' hs' heq := by
    rcases List.mem_append.1 hs' with hold | hnew
    · have hlt := ht.tally_lt s' (List.mem_filter.1 hold).1
      rw [heq] at hlt
      exact absurd hlt (Nat.lt_irrefl _)
    · exact List.mem_singleton.1 hnew

/-- The owner of a channel is among some subscriptions exactly if one of them has the channel. -/
theorem Owns.any_channel (ho : Owns h s) {l : List Subscription} (hl : ∀ s' ∈ l, s' ∈ h.subscriptions) :
    l.any (·.channel = s.channel) = true ↔ s ∈ l := by
  rw [List.any_eq_true]
  constructor
  · rintro ⟨s', hs', heq⟩
    rwa [← ho.channel s' (hl s' hs') (of_decide_eq_true heq)]
  · exact fun hs => ⟨s, hs, decide_eq_true rfl⟩

theorem Owns.any_tally (ho : Owns h s) {l : List Subscription} (hl : ∀ s' ∈ l, s' ∈ h.subscriptions) :
    l.any (·.tally = s.tally) = true ↔ s ∈ l := by
  rw [List.any_eq_true]
  constructor
  · rintro ⟨s', hs', heq⟩
    rwa [← ho.tally s' (hl s' hs') (of_decide_eq_true heq)]
  · exact fun hs => ⟨s, hs, decide_eq_true rfl⟩

end Keys

/-! ## One action -/

section Act

variable {h : Hub} {s : Subscription} {n : Nat} (a : Action)

/-- An open channel stays open unless it is closed. -/
theorem isOpen_act (hn : n < h.channels.length) : (h.act a).isOpen n = (h.isOpen n && !a.shuts n) := by
  cases a with
  | subscribe id filter source =>
    simp [act, subscribe, isOpen, Action.shuts, List.getElem?_append_left hn]
  | unsubscribe id => simp [act, unsubscribe, isOpen, Action.shuts]
  | publish e =>
    simp only [act, publish, isOpen, Action.shuts, List.getElem?_mapIdx, List.getElem?_eq_getElem hn]
    simp only [Option.map_some]
    split <;> simp
  | receive m =>
    simp only [act, receive, isOpen, Action.shuts, List.getElem?_modify, List.getElem?_eq_getElem hn]
    by_cases hm : m = n <;> simp [hm]
  | close m =>
    simp only [act, close, isOpen, Action.shuts, List.getElem?_modify, List.getElem?_eq_getElem hn]
    by_cases hm : m = n <;> simp [hm]
  | hangUp m =>
    simp only [act, hangUp, isOpen, Action.shuts, List.getElem?_modify, List.getElem?_eq_getElem hn]
    by_cases hm : m = n <;> simp [hm]

/-- An action ends a subscription, or it does not, by what the subscription is. -/
theorem mem_act (ho : Owns h s) :
    s ∈ (h.act a).subscriptions ↔ s ∈ h.subscriptions ∧ a.spares s (h.isOpen s.channel) = true := by
  cases a with
  | subscribe id filter source =>
    have hne : s ≠ ⟨id, filter, source, h.channels.length, h.tallies.length⟩ := by
      intro heq
      have hlt := ho.channel_lt
      rw [heq] at hlt
      exact Nat.lt_irrefl _ hlt
    simp [act, subscribe, Action.spares, hne]
  | unsubscribe id => simp [act, unsubscribe, Action.spares]
  | publish e => simp [act, publish, Action.spares]
  | _ => simp [act, receive, close, hangUp, Action.spares]

/-- What an action sends is pending, unless it was obtained; nothing else is added, lost or moved. -/
theorem pendingOf_act (ho : Owns h s) (ha : a ≠ .hangUp s.channel) :
    h.pendingOf s.channel ++ (h.share s a).toList =
      (h.gain s.channel a).toList ++ (h.act a).pendingOf s.channel := by
  have hn := ho.channel_lt
  cases a with
  | subscribe id filter source =>
    simp [act, subscribe, pendingOf, share, gain, List.getElem?_append_left hn]
  | unsubscribe id => simp [act, unsubscribe, pendingOf, share, gain]
  | publish e =>
    have hany : (h.reached e).any (·.channel = s.channel) = true ↔
        s ∈ h.subscriptions ∧ h.isOpen s.channel = true ∧ s.filter.accepts e = true := by
      rw [ho.any_channel fun s' hs' => (mem_reached_iff.1 hs').1, mem_reached_iff]
      exact and_congr_right fun _ => and_comm
    simp only [act, publish, pendingOf, share, gain, List.getElem?_mapIdx, List.getElem?_eq_getElem hn]
    simp only [Option.map_some]
    by_cases hs : s ∈ h.subscriptions ∧ h.isOpen s.channel = true ∧ s.filter.accepts e = true
    · rw [if_pos hs, if_pos (hany.2 hs)]
      simp
    · rw [if_neg hs, if_neg (fun h' => hs (hany.1 h'))]
      simp
  | receive m =>
    by_cases hm : m = s.channel
    · subst hm
      simp only [act, receive, pendingOf, share, gain, List.getElem?_modify, List.getElem?_eq_getElem hn]
      cases hp : h.channels[s.channel].pending <;> simp [hp, Except.toOption]
    · simp [act, receive, pendingOf, share, gain, hm]
  | close m =>
    simp only [act, close, pendingOf, share, gain, List.getElem?_modify, List.getElem?_eq_getElem hn]
    by_cases hm : m = s.channel <;> simp [hm]
  | hangUp m =>
    have hm : m ≠ s.channel := fun hm => ha (hm ▸ rfl)
    simp [act, hangUp, pendingOf, share, gain, hm]

/-- What a tally counts is what is sent to the receiver of its subscription. -/
theorem tally_act (ho : Owns h s) {t : Tally} (ht : h.tallies[s.tally]? = some t) :
    ∃ k, (h.act a).tallies[s.tally]? = some
        ⟨t.delivered + (h.share s a).toList.length, t.errors + k, t.hasLast || (h.share s a).isSome⟩ ∧
      (s ∉ h.subscriptions → k = 0) := by
  cases a with
  | subscribe id filter source =>
    exact ⟨0, by simp [act, subscribe, share, List.getElem?_append_left ho.tally_lt, ht], fun _ => rfl⟩
  | publish e =>
    have hreach : (h.reached e).any (·.tally = s.tally) = true ↔
        s ∈ h.subscriptions ∧ h.isOpen s.channel = true ∧ s.filter.accepts e = true := by
      rw [ho.any_tally fun s' hs' => (mem_reached_iff.1 hs').1, mem_reached_iff]
      exact and_congr_right fun _ => and_comm
    have hfail : (h.failed e).any (·.tally = s.tally) = true ↔ s ∈ h.failed e :=
      ho.any_tally fun s' hs' => (mem_failed_iff.1 hs').1
    simp only [act, publish, share, List.getElem?_mapIdx, ht, Option.map_some]
    by_cases hs : s ∈ h.subscriptions ∧ h.isOpen s.channel = true ∧ s.filter.accepts e = true
    · rw [if_pos (hreach.2 hs), if_pos hs]
      exact ⟨0, by simp [Tally.recordDelivered], fun _ => rfl⟩
    · rw [if_neg (fun h' => hs (hreach.1 h')), if_neg hs]
      by_cases hf : s ∈ h.failed e
      · rw [if_pos (hfail.2 hf)]
        exact ⟨1, by simp [Tally.recordError], fun hno => absurd (mem_failed_iff.1 hf).1 hno⟩
      · rw [if_neg (fun h' => hf (hfail.1 h'))]
        exact ⟨0, by simp, fun _ => rfl⟩
  | _ => exact ⟨0, by simp [act, unsubscribe, receive, close, hangUp, share, ht], fun _ => rfl⟩

end Act

/-! ## Whole histories -/

section Histories

variable {h : Hub} {s : Subscription} {as : List Action}

/-- Whether a channel is open after a history depends on nobody but its receiving end. -/
theorem isOpen_run {n : Nat} (hn : n < h.channels.length) :
    (h.run as).isOpen n = true ↔ h.isOpen n = true ∧ ∀ a ∈ as, a.shuts n = false := by
  induction as generalizing h with
  | nil => simp
  | cons a as ih =>
    rw [run_cons, ih (Nat.lt_of_lt_of_le hn (length_channels_act a)), isOpen_act a hn]
    simp [and_assoc]

/-- A subscription stays in force until it is ended or replaced, or an event that it accepts meets its closed channel. -/
theorem mem_run (ho : Owns h s) :
    s ∈ (h.run as).subscriptions ↔ s ∈ h.subscriptions ∧ keeps s (h.isOpen s.channel) as = true := by
  induction as generalizing h with
  | nil => simp [keeps]
  | cons a as ih =>
    rw [run_cons, ih (owns_act ho a), mem_act a ho, isOpen_act a ho.channel_lt, keeps, Bool.and_eq_true, and_assoc]

/-- What a subscription is due of a history: what it is sent of the first action, and what it is due of the others. -/
theorem map_due_cons {k : Nat} {a : Action} :
    (due s k h (a :: as)).map Prod.snd = (h.share s a).toList ++ (due s (k + 1) (h.act a) as).map Prod.snd := by
  rw [due, List.map_append, List.map_map]
  exact congrArg (· ++ _) (List.map_id _)

/-- What a subscription is due, event by event. -/
theorem mem_due {j k : Nat} {e : QueueEvent} :
    (j, e) ∈ due s k h as ↔ ∃ i, j = k + i ∧ as[i]? = some (.publish e) ∧
      s ∈ (h.run (as.take i)).subscriptions ∧ (h.run (as.take i)).isOpen s.channel = true ∧
      s.filter.accepts e = true := by
  induction as generalizing h k with
  | nil => simp [due]
  | cons a as ih =>
    rw [due, List.mem_append, ih]
    constructor
    · rintro (hnow | ⟨i, rfl, hrest⟩)
      · obtain ⟨e', he', heq⟩ := List.mem_map.1 hnow
        cases heq
        refine ⟨0, rfl, ?_⟩
        cases a with
        | publish x =>
          simp only [share, Option.mem_toList, Option.ite_none_right_eq_some, Option.some.injEq] at he'
          obtain ⟨⟨hs, hopen, hacc⟩, rfl⟩ := he'
          exact ⟨rfl, hs, hopen, hacc⟩
        | _ => simp [share] at he'
      · exact ⟨i + 1, by omega, hrest⟩
    · rintro ⟨i, rfl, ha, hs, hopen, hacc⟩
      cases i with
      | zero =>
        left
        simp only [List.getElem?_cons_zero, Option.some.injEq] at ha
        subst ha
        simp only [List.take_zero, run_nil] at hs hopen
        simp [share, hs, hopen, hacc]
      | succ i => exact .inr ⟨i, by omega, ha, hs, hopen, hacc⟩

/-- What a subscription is due comes in the order of its publication. -/
theorem pairwise_due {k : Nat} : (due s k h as).Pairwise fun p q => p.1 < q.1 := by
  induction as generalizing h k with
  | nil => exact .nil
  | cons a as ih =>
    rw [due]
    refine List.pairwise_append.2 ⟨?_, ih, ?_⟩
    · cases h.share s a <;> simp
    · intro p hp q hq
      obtain ⟨e, -, rfl⟩ := List.mem_map.1 hp
      obtain ⟨i, hi, -⟩ := mem_due.1 hq
      show k < q.1
      omega

/-- A subscription whose channel is closed is due nothing. -/
theorem due_of_closed {k : Nat} (hn : s.channel < h.channels.length) (hclosed : h.isOpen s.channel = false) :
    due s k h as = [] := by
  refine List.eq_nil_iff_forall_not_mem.2 fun p hp => ?_
  obtain ⟨i, -, -, -, hopen, -⟩ := mem_due.1 hp
  rw [((isOpen_run hn).1 hopen).1] at hclosed
  cases hclosed

/-- A subscription that is no longer in force is due nothing. -/
theorem due_of_notMem {k : Nat} (ho : Owns h s) (hs : s ∉ h.subscriptions) : due s k h as = [] := by
  refine List.eq_nil_iff_forall_not_mem.2 fun p hp => ?_
  obtain ⟨i, -, -, hin, -⟩ := mem_due.1 hp
  exact hs ((mem_run ho).1 hin).1

/-- What was pending and what is sent is, in this order, what is obtained and what is pending in the end. -/
theorem obtained_append {k : Nat} (ho : Owns h s) (has : .hangUp s.channel ∉ as) :
    h.pendingOf s.channel ++ (due s k h as).map Prod.snd =
      obtained s.channel h as ++ (h.run as).pendingOf s.channel := by
  induction as generalizing h k with
  | nil => simp [due, obtained]
  | cons a as ih =>
    have hact := pendingOf_act a ho fun ha => has (ha ▸ List.mem_cons_self)
    have hrest := ih (k := k + 1) (owns_act ho a) fun hin => has (List.mem_cons_of_mem _ hin)
    rw [map_due_cons, obtained, run_cons, ← List.append_assoc, hact, List.append_assoc, hrest, List.append_assoc]

variable (as) in
/-- What is obtained and what is pending in the end is the first part of what was pending and what is sent: a receiver
that goes away leaves the rest. -/
theorem obtained_append_isPrefix {k : Nat} (ho : Owns h s) :
    obtained s.channel h as ++ (h.run as).pendingOf s.channel <+:
      h.pendingOf s.channel ++ (due s k h as).map Prod.snd := by
  induction as generalizing h k with
  | nil => exact List.prefix_append ..
  | cons a as ih =>
    have hrest := ih (k := k + 1) (owns_act ho a)
    rw [map_due_cons, obtained, run_cons, ← List.append_assoc]
    by_cases ha : a = .hangUp s.channel
    · subst ha
      have hclosed : (h.act (.hangUp s.channel)).isOpen s.channel = false := by
        rw [isOpen_act _ ho.channel_lt]
        simp [Action.shuts]
      have hnone : (h.act (.hangUp s.channel)).pendingOf s.channel = [] := by
        simp [act, hangUp, pendingOf, List.getElem?_eq_getElem ho.channel_lt]
      rw [hnone, due_of_closed (owns_act ho _).channel_lt hclosed] at hrest
      rw [List.append_assoc, List.prefix_nil.1 hrest]
      exact List.nil_prefix
    · rw [pendingOf_act a ho ha, List.append_assoc, List.append_assoc]
      exact List.prefix_append_right_inj _ |>.2 hrest

variable (as) in
/-- A receiver obtains nothing that it was not due, and what it was due first. -/
theorem obtained_isPrefix {k : Nat} (ho : Owns h s) :
    obtained s.channel h as <+: h.pendingOf s.channel ++ (due s k h as).map Prod.snd :=
  (List.prefix_append ..).trans (obtained_append_isPrefix as ho)

variable (as) in
/-- A tally counts what its subscription was due, and nothing once the subscription is no longer in force. -/
theorem tally_run {k : Nat} (ho : Owns h s) {t : Tally} (ht : h.tallies[s.tally]? = some t) :
    ∃ n, (h.run as).tallies[s.tally]? = some
        ⟨t.delivered + (due s k h as).length, t.errors + n, t.hasLast || !(due s k h as).isEmpty⟩ ∧
      (s ∉ h.subscriptions → n = 0) := by
  induction as generalizing h k t with
  | nil => exact ⟨0, by simp [due, ht], fun _ => rfl⟩
  | cons a as ih =>
    obtain ⟨n, hact, hzero⟩ := tally_act a ho ht
    obtain ⟨n', hrun, hzero'⟩ := ih (k := k + 1) (owns_act ho a) hact
    refine ⟨n + n', ?_, fun hs => ?_⟩
    · rw [run_cons, hrun, due, List.length_append, List.length_map, Nat.add_assoc, Nat.add_assoc]
      cases h.share s a <;> simp
    · rw [hzero hs, hzero' fun hs' => hs ((mem_act a ho).1 hs').1]

/-- A receiver that asks again and again gets what is pending, the oldest first. -/
theorem obtained_receives {n : Nat} (k : Nat) :
    obtained n h (List.replicate k (.receive n)) = (h.pendingOf n).take k := by
  induction k generalizing h with
  | zero => rfl
  | succ k ih =>
    rw [List.replicate_succ, obtained, ih]
    have hnext : (h.act (.receive n)).pendingOf n = (h.pendingOf n).tail := by
      simp only [act, receive, pendingOf, List.getElem?_modify]
      cases h.channels[n]? <;> simp
    rw [hnext]
    cases hp : h.pendingOf n <;> simp [gain, receive, hp, Except.toOption]

theorem run_receives {n : Nat} (k : Nat) :
    h.run (List.replicate k (.receive n)) =
      { h with channels := h.channels.modify n fun c => { c with pending := c.pending.drop k } } := by
  induction k generalizing h with
  | zero => exact congrArg (fun cs => { h with channels := cs }) (List.modify_id ..).symm
  | succ k ih =>
    rw [List.replicate_succ, run_cons, ih]
    simp only [act, receive, List.modify_modify_eq]
    congr 2
    funext c
    simp [List.drop_tail]

/-- To drain a channel is to ask it for all that is pending. -/
theorem drain_eq_receives (n : Nat) :
    h.drain n = (h.run (List.replicate (h.pendingOf n).length (.receive n)),
      obtained n h (List.replicate (h.pendingOf n).length (.receive n))) := by
  rw [run_receives, obtained_receives, List.take_length, drain]
  congr 2
  refine List.ext_getElem? fun m => ?_
  rw [List.getElem?_modify, List.getElem?_modify]
  by_cases hm : n = m
  · subst hm
    cases hc : h.channels[n]? with
    | none => rfl
    | some c => simp [pendingOf, hc]
  · simp [hm]

/-- A receiver with nothing pending learns that its channel is closed exactly if it was closed or has no subscription
any more. -/
theorem receive_end (ho : Owns h s) (hnone : h.pendingOf s.channel = []) :
    (h.receive s.channel).2 = .error .closed ↔ s ∉ h.subscriptions ∨ h.isOpen s.channel = false := by
  have hany : h.subscriptions.any (·.channel = s.channel) = true ↔ s ∈ h.subscriptions :=
    ho.any_channel fun _ => id
  simp only [receive, hnone, endOf]
  by_cases hs : s ∈ h.subscriptions
  · simp [hany.2 hs, hs]
  · simp [Bool.eq_false_iff.2 fun h' => hs (hany.1 h'), hs]

end Histories

/-! ## Subscriptions in a history -/

/-- A moment of a history at which a subscription is made. -/
structure Enrolment (as : List Action) where
  before : List Action
  id : String
  filter : EventFilter
  source : String
  after : List Action
  split : as = before ++ .subscribe id filter source :: after

namespace Enrolment

variable {as : List Action} (m : Enrolment as)

/-- The subscription that is made. -/
def subscription : Subscription :=
  ⟨m.id, m.filter, m.source, (run {} m.before).channels.length, (run {} m.before).tallies.length⟩

/-- The hub when the subscription has just been made. -/
def hub : Hub := run {} (m.before ++ [.subscribe m.id m.filter m.source])

/-- What the subscription is due, each event with its place in the history. -/
def due : List (Nat × QueueEvent) := Hub.due m.subscription (m.before.length + 1) m.hub m.after

/-- What the receiver of the subscription obtains. -/
def obtained : List QueueEvent := Hub.obtained m.subscription.channel m.hub m.after

/-- What the receiver obtains, each event with its place in the history. -/
def seen : List (Nat × QueueEvent) := m.due.take m.obtained.length

theorem hub_eq : m.hub = ((run {} m.before).subscribe m.id m.filter m.source).1 := by
  rw [hub, run_append]
  rfl

theorem split_concat : as = (m.before ++ [.subscribe m.id m.filter m.source]) ++ m.after :=
  m.split.trans (List.append_cons ..)

theorem run_eq : run {} as = m.hub.run m.after := by
  rw [hub, ← run_append, ← m.split_concat]

/-- The first part of the history, up to some moment after the subscription. -/
theorem take_eq (i : Nat) : run {} (as.take (m.before.length + 1 + i)) = m.hub.run (m.after.take i) := by
  have hlen : m.before.length + 1 = (m.before ++ [Action.subscribe m.id m.filter m.source]).length := by simp
  have htake := congrArg (List.take (m.before.length + 1 + i)) m.split_concat
  rw [htake, hlen, List.take_length_add_append, run_append]
  rfl

/-- What is done after the subscription. -/
theorem getElem?_eq (i : Nat) : as[m.before.length + 1 + i]? = m.after[i]? := by
  have hlen : m.before.length + 1 = (m.before ++ [Action.subscribe m.id m.filter m.source]).length := by simp
  have hget := congrArg (fun l => l[m.before.length + 1 + i]?) m.split_concat
  refine hget.trans ?_
  rw [hlen, List.getElem?_append_right (Nat.le_add_right _ _), Nat.add_sub_cancel_left]

theorem owns_hub : Owns m.hub m.subscription := by
  rw [hub_eq]
  exact (tidy_run m.before).owns m.id m.filter m.source

theorem owns : Owns (run {} as) m.subscription := by
  rw [m.run_eq]
  exact owns_run m.owns_hub m.after

theorem mem_hub : m.subscription ∈ m.hub.subscriptions := by
  rw [hub_eq]
  exact List.mem_append_right _ List.mem_cons_self

theorem hub_channel : m.hub.channels[m.subscription.channel]? = some {} := by
  rw [hub_eq]
  exact List.getElem?_concat_length

theorem hub_tally : m.hub.tallies[m.subscription.tally]? = some {} := by
  rw [hub_eq]
  exact List.getElem?_concat_length

theorem hub_isOpen : m.hub.isOpen m.subscription.channel = true := by
  rw [isOpen, m.hub_channel]

theorem hub_pendingOf : m.hub.pendingOf m.subscription.channel = [] := by
  rw [pendingOf, m.hub_channel]

/-- What the receiver obtains is the first part of what its subscription is due. -/
theorem obtained_isPrefix : m.obtained <+: m.due.map Prod.snd := by
  have hpre := Hub.obtained_isPrefix m.after (k := m.before.length + 1) m.owns_hub
  rwa [m.hub_pendingOf, List.nil_append] at hpre

/-- What a subscription is due, in terms of the whole history. -/
theorem mem_due {j : Nat} {e : QueueEvent} :
    (j, e) ∈ m.due ↔ as[j]? = some (.publish e) ∧ m.before.length < j ∧
      m.subscription ∈ (run {} (as.take j)).subscriptions ∧
      (run {} (as.take j)).isOpen m.subscription.channel = true ∧ m.filter.accepts e = true := by
  rw [due, Hub.mem_due]
  constructor
  · rintro ⟨i, rfl, ha, hs, hopen, hacc⟩
    rw [← m.take_eq] at hs hopen
    exact ⟨(m.getElem?_eq i).trans ha, by omega, hs, hopen, hacc⟩
  · rintro ⟨ha, hlt, hs, hopen, hacc⟩
    obtain ⟨i, rfl⟩ : ∃ i, j = m.before.length + 1 + i := ⟨j - (m.before.length + 1), by omega⟩
    rw [m.take_eq] at hs hopen
    exact ⟨i, rfl, (m.getElem?_eq i).symm.trans ha, hs, hopen, hacc⟩

/-- A subscription that is made later has another channel and another tally. -/
theorem subscription_ne {m' : Enrolment as} (hlt : m.before.length < m'.before.length) :
    m.subscription.channel < m'.subscription.channel ∧ m.subscription.tally < m'.subscription.tally := by
  obtain ⟨i, hi⟩ : ∃ i, m'.before.length = m.before.length + 1 + i := ⟨_, (Nat.add_sub_of_le hlt).symm⟩
  have htake : as.take m'.before.length = m'.before := by
    refine (congrArg (List.take m'.before.length) m'.split).trans ?_
    exact List.take_left
  have hrun : run {} m'.before = m.hub.run (m.after.take i) := by
    rw [← m.take_eq, ← hi, htake]
  have howns := owns_run m.owns_hub (m.after.take i)
  rw [← hrun] at howns
  exact ⟨howns.channel_lt, howns.tally_lt⟩

end Enrolment

/-! ## Deliveries -/

/-- What holds of a subscription, its receiver and its tally at the end of a history. -/
structure Served {as : List Action} (m : Enrolment as) : Prop where
  /-- The subscription is in the map until it is ended or replaced, or an event that it accepts meets its closed
  channel. -/
  inForce : m.subscription ∈ (run {} as).subscriptions ↔ keeps m.subscription true m.after = true
  found : (run {} as).find? m.id = some m.subscription ↔ m.subscription ∈ (run {} as).subscriptions
  /-- The channel is open until its receiving end is closed or gone. -/
  isOpen : (run {} as).isOpen m.subscription.channel = true ↔ ∀ a ∈ m.after, a.shuts m.subscription.channel = false
  /-- What is due is what is published while the subscription is in the map, its channel open and its filter
  accepting. -/
  due (j : Nat) (e : QueueEvent) : (j, e) ∈ m.due ↔ as[j]? = some (.publish e) ∧ m.before.length < j ∧
    m.subscription ∈ (run {} (as.take j)).subscriptions ∧
    (run {} (as.take j)).isOpen m.subscription.channel = true ∧ m.filter.accepts e = true
  ordered : m.due.Pairwise fun p q => p.1 < q.1
  /-- What is due is obtained, in order, or pending, unless the receiver has gone away. -/
  complete : .hangUp m.subscription.channel ∉ m.after →
    m.obtained ++ (run {} as).pendingOf m.subscription.channel = m.due.map Prod.snd
  obtained : m.obtained = m.seen.map Prod.snd
  /-- Whoever asks for what is pending gets it. -/
  yields (k : Nat) : Hub.obtained m.subscription.channel (run {} as)
    (List.replicate k (.receive m.subscription.channel)) = ((run {} as).pendingOf m.subscription.channel).take k
  /-- Whoever asks and has nothing pending learns that the channel is closed, if the subscription is in the map no
  longer, or if it was closed. -/
  closed : (run {} as).pendingOf m.subscription.channel = [] →
    (((run {} as).receive m.subscription.channel).2 = .error .closed ↔
      m.subscription ∉ (run {} as).subscriptions ∨ (run {} as).isOpen m.subscription.channel = false)
  /-- Once the subscription is in the map no longer, nothing is sent to its receiver and its tally is left alone. -/
  ended : m.subscription ∉ (run {} as).subscriptions → ∀ bs, m.subscription ∉ (run {} (as ++ bs)).subscriptions ∧
    Hub.obtained m.subscription.channel (run {} as) bs <+: (run {} as).pendingOf m.subscription.channel ∧
    (run {} (as ++ bs)).tallies[m.subscription.tally]? = (run {} as).tallies[m.subscription.tally]?
  fresh : m.hub.tallies[m.subscription.tally]? = some {}
  tally : ∃ t, (run {} as).tallies[m.subscription.tally]? = some t ∧ t.delivered = m.due.length ∧
    (t.hasLast = true ↔ 0 < t.delivered)
  own : ∀ s ∈ (run {} as).subscriptions,
    s.channel = m.subscription.channel ∨ s.tally = m.subscription.tally → s = m.subscription

section Served

variable {as : List Action}

theorem served (m : Enrolment as) : Served m := by
  have howns := m.owns
  constructor
  case inForce =>
    rw [m.run_eq, mem_run m.owns_hub, m.hub_isOpen]
    simp [m.mem_hub]
  case found => exact Tidy.find?_eq (s := m.subscription) (tidy_run as)
  case isOpen =>
    rw [m.run_eq, isOpen_run m.owns_hub.channel_lt]
    simp [m.hub_isOpen]
  case due => exact fun j e => m.mem_due
  case ordered => exact pairwise_due
  case complete =>
    intro hpresent
    have hall := obtained_append (k := m.before.length + 1) m.owns_hub hpresent
    rw [m.hub_pendingOf, List.nil_append, ← m.run_eq] at hall
    exact hall.symm
  case obtained =>
    rw [Enrolment.seen, List.map_take]
    exact List.prefix_iff_eq_take.1 m.obtained_isPrefix
  case yields => exact obtained_receives
  case closed => exact receive_end howns
  case ended =>
    intro hs bs
    have hnone : Hub.due m.subscription 0 (run {} as) bs = [] := due_of_notMem howns hs
    obtain ⟨t, ht⟩ : ∃ t, (run {} as).tallies[m.subscription.tally]? = some t :=
      ⟨_, List.getElem?_eq_getElem howns.tally_lt⟩
    obtain ⟨n, htally, hzero⟩ := tally_run bs (k := 0) howns ht
    have hpre := Hub.obtained_isPrefix bs (k := 0) howns
    rw [hnone] at htally hpre
    rw [run_append, mem_run howns]
    refine ⟨fun hin => hs hin.1, by simpa using hpre, ?_⟩
    rw [htally, hzero hs, ht]
    simp
  case fresh => exact m.hub_tally
  case tally =>
    obtain ⟨n, htally, -⟩ := tally_run m.after (k := m.before.length + 1) m.owns_hub m.hub_tally
    rw [← m.run_eq] at htally
    refine ⟨_, htally, ?_, ?_⟩
    · exact Nat.zero_add _
    · cases hdue : Hub.due m.subscription (m.before.length + 1) m.hub m.after <;> simp
  case own => exact fun s hs => Or.rec (howns.channel s hs) (howns.tally s hs)

/-- Two sequences in order agree on what they have in common. -/
theorem filter_mem_comm {l l' : List (Nat × QueueEvent)} (hl : l.Pairwise fun p q => p.1 < q.1)
    (hl' : l'.Pairwise fun p q => p.1 < q.1) : l.filter (· ∈ l') = l'.filter (· ∈ l) := by
  have nodup : ∀ {l : List (Nat × QueueEvent)}, l.Pairwise (fun p q => p.1 < q.1) → l.Nodup := by
    intro l hl
    refine hl.imp fun {p q} hlt heq => ?_
    rw [heq] at hlt
    exact Nat.lt_irrefl _ hlt
  refine List.Perm.eq_of_pairwise (fun p q _ _ hpq hqp => absurd hpq (Nat.lt_asymm hqp)) (hl.filter _)
    (hl'.filter _) ?_
  refine (List.perm_ext_iff_of_nodup ((nodup hl).filter _) ((nodup hl').filter _)).2 fun p => ?_
  simp [List.mem_filter, and_comm]

/-- Whatever is done to a hub, in whatever order: the receiver of each subscription obtains, in order and each once,
exactly what is published while the subscription is in the map, its channel open and its filter accepting; once the
subscription is in the map no longer, the receiver still obtains what is pending, and then learns that its channel is
closed. The tally counts what was sent, and nothing of any other subscription, under the same id or not. And any two
receivers obtain what they have in common in the same order. -/
theorem whole_delivery (as : List Action) (m : Enrolment as) :
    Served m ∧ ∀ m' : Enrolment as, m.seen.filter (· ∈ m'.seen) = m'.seen.filter (· ∈ m.seen) ∧
      (m.before.length ≠ m'.before.length → m.subscription.channel ≠ m'.subscription.channel ∧
        m.subscription.tally ≠ m'.subscription.tally) := by
  refine ⟨served m, fun m' => ⟨?_, fun hne => ?_⟩⟩
  · exact filter_mem_comm (pairwise_due.sublist (List.take_sublist ..)) (pairwise_due.sublist (List.take_sublist ..))
  · rcases Nat.lt_or_gt_of_ne hne with hlt | hgt
    · obtain ⟨hchannel, htally⟩ := m.subscription_ne hlt
      exact ⟨Nat.ne_of_lt hchannel, Nat.ne_of_lt htally⟩
    · obtain ⟨hchannel, htally⟩ := m'.subscription_ne hgt
      exact ⟨Nat.ne_of_gt hchannel, Nat.ne_of_gt htally⟩

/-- A subscription to everything is replaced while one of its events is pending; another is to failures only. -/
def sampleHistory : List Action :=
  [.subscribe "watch" .all "first", .publish { type := .addingCompleted, queue := "q" },
    .subscribe "alarm" .exceptionsOnly "other", .publish { type := .itemFailed, queue := "q" }, .receive 0,
    .subscribe "watch" .all "second", .publish { type := .completed, queue := "q" }, .receive 0]

/-- The subscription that is replaced. -/
def sampleReplaced : Enrolment sampleHistory :=
  ⟨[], "watch", .all, "first", sampleHistory.tail, rfl⟩

theorem sample_whole_delivery :
    sampleReplaced.seen = [(1, { type := .addingCompleted, queue := "q" }), (3, { type := .itemFailed, queue := "q" })] ∧
      sampleReplaced.obtained = sampleReplaced.seen.map Prod.snd ∧
      ((run {} sampleHistory).receive 0).2 = .error .closed ∧
      (run {} sampleHistory).tallies = [⟨2, 0, true⟩, ⟨1, 0, true⟩, ⟨1, 0, true⟩] := by
  obtain ⟨hserved, -⟩ := whole_delivery sampleHistory sampleReplaced
  refine ⟨by decide, hserved.obtained, (hserved.closed (by decide)).2 (.inl (by decide)), rfl⟩

end Served

end Conveyor.Hub
