import Conveyor.Proofs.Notification.Delivery
import Conveyor.Proofs.Queue.Round
import Conveyor.Proofs.Queue.Turn

/-!
# What subscribers of a queue are told

What a run of a queue does to its hub is a history of the hub (`dealings`, `hub_of_execute`): an instruction deals with
the hub by at most one publication, subscription or end of a subscription, the last strong reference ends all
subscriptions, and receivers take what is pending or go away. The events that the journal notes are the ones that this
history publishes (`events_of_execute`). So what histories deliver is told of the events of the run.

* `told_of_subscribe`: the receiver of a subscription has taken, or has still pending, what the run has published since
  and the filter accepts.
-/

namespace Conveyor

/-! ## The publications of a history -/

namespace Hub

/-- The event that an action publishes. -/
def Action.published? : Action → Option QueueEvent
  | .publish e => some e
  | _ => none

/-- The events that a history publishes. -/
def publications (as : List Action) : List QueueEvent := as.filterMap Action.published?

section Publications

variable {h : Hub} {s : Subscription} {as bs : List Action}

theorem publications_append : publications (as ++ bs) = publications as ++ publications bs := List.filterMap_append

/-- What a subscription is sent of one action: what is published, if it is in force, its channel open and its filter
accepting. -/
theorem share_eq (a : Action) (hs : s ∈ h.subscriptions) (hopen : h.isOpen s.channel = true) :
    (h.share s a).toList = a.published?.toList.filter s.filter.accepts := by
  cases a with
  | publish e => by_cases hacc : s.filter.accepts e = true <;> simp [share, Action.published?, hs, hopen, hacc]
  | _ => rfl

/-- What a subscription in force is due of a history: its part of the first action, and what it is due of the rest. -/
theorem due_cons_eq {k : Nat} (a : Action) (hs : s ∈ h.subscriptions) (hopen : h.isOpen s.channel = true) :
    (due s k h (a :: as)).map Prod.snd =
      a.published?.toList.filter s.filter.accepts ++ (due s (k + 1) (h.act a) as).map Prod.snd := by
  rw [map_due_cons, share_eq a hs hopen]

theorem accepted_publications_cons (a : Action) :
    (publications (a :: as)).filter s.filter.accepts =
      a.published?.toList.filter s.filter.accepts ++ (publications as).filter s.filter.accepts := by
  rw [publications, Queue.filterMap_cons_toList, List.filter_append]
  rfl

/-- What a subscription is due is the first part of what is published and its filter accepts. -/
theorem due_isPrefix {k : Nat} (ho : Owns h s) :
    (due s k h as).map Prod.snd <+: (publications as).filter s.filter.accepts := by
  induction as generalizing h k with
  | nil => exact List.nil_prefix
  | cons a as ih =>
    by_cases hin : s ∈ h.subscriptions ∧ h.isOpen s.channel = true
    · rw [due_cons_eq a hin.1 hin.2, accepted_publications_cons]
      exact (List.prefix_append_right_inj _).2 (ih (owns_act ho a))
    · -- a subscription that is over, or whose channel is closed, is due nothing more
      have hnone : due s k h (a :: as) = [] := by
        by_cases hs : s ∈ h.subscriptions
        · apply due_of_closed ho.channel_lt
          exact Bool.eq_false_iff.2 fun hopen => hin ⟨hs, hopen⟩
        · exact due_of_notMem ho hs
      rw [hnone]
      exact List.nil_prefix

/-- A subscription that is in force in the end, with its channel open, is due all that is published and its filter
accepts. -/
theorem due_eq_publications {k : Nat} (ho : Owns h s) (hin : s ∈ (h.run as).subscriptions)
    (hopen : (h.run as).isOpen s.channel = true) :
    (due s k h as).map Prod.snd = (publications as).filter s.filter.accepts := by
  induction as generalizing h k with
  | nil => rfl
  | cons a as ih =>
    have hs := ((mem_run ho).1 hin).1
    have hnow := ((isOpen_run ho.channel_lt).1 hopen).1
    rw [due_cons_eq a hs hnow, accepted_publications_cons, ih (owns_act ho a) hin hopen]

/-- To end subscriptions one by one. -/
theorem run_unsubscribes (ids : List String) :
    h.run (ids.map .unsubscribe) = { h with subscriptions := h.subscriptions.filter (·.id ∉ ids) } := by
  induction ids generalizing h with
  | nil => simp
  | cons id ids ih =>
    rw [List.map_cons, run_cons, ih]
    simp only [act, unsubscribe, List.filter_filter]
    congr 1
    refine List.filter_congr fun s _ => ?_
    by_cases hid : s.id = id <;> simp [hid]

/-- All subscriptions end when each is ended. -/
theorem run_farewells : h.run ((h.subscriptions.map (·.id)).map .unsubscribe) = h.shutDown := by
  rw [run_unsubscribes, shutDown]
  congr 1
  refine List.filter_eq_nil_iff.2 fun s hs hno => ?_
  exact of_decide_eq_true hno (List.mem_map_of_mem hs)

end Publications

end Hub

namespace Queue

variable {ι : Type}

/-! ## What a run does to the hub -/

/-- What it does to the hub to let go of a strong reference. -/
def Shared.farewells (s : Shared ι) : List Hub.Action :=
  if s.strong ≤ 1 then (s.hub.subscriptions.map (·.id)).map .unsubscribe else []

/-- What an instruction does to the hub. -/
def Instr.dealings (u : Setup ι) (s : Shared ι) : Instr ι → List Hub.Action
  | .publish e => [.publish e]
  | .subscribe id filter => [.subscribe id filter ("queue:" ++ u.name)]
  | .unsubscribe id => [.unsubscribe id]
  | .release => s.farewells
  | .disown => if s.owned then s.farewells else []
  | _ => []

/-- What a step does to the hub. -/
def State.dealings (u : Setup ι) (s : State ι) : Choice ι → List Hub.Action
  | .run t sleeper => (s.deed? (.run t sleeper)).toList.flatMap fun d => d.instr.dealings u d.found
  | .drain n => List.replicate (s.shared.hub.pendingOf n).length (.receive n)
  | .hangUp n => [.hangUp n]
  | _ => []

/-- What a run does to the hub. -/
def dealings (u : Setup ι) (s : State ι) : List (Choice ι) → List Hub.Action
  | [] => []
  | c :: cs =>
    match step u s c with
    | some s' => s.dealings u c ++ dealings u s' cs
    | none => []

section Perform

variable {u : Setup ι} {s : Shared ι} {t : ThreadId} {ended : ThreadId → Bool} {held : Reply ι}

theorem Shared.noteAll_hub (ns : List (Note ι)) : (s.noteAll t ns).hub = s.hub := by
  induction ns generalizing s with
  | nil => rfl
  | cons n ns ih => exact ih (s := s.note t n)

theorem Shared.releaseOne_hub : s.releaseOne.hub = s.hub.run s.farewells := by
  unfold releaseOne farewells
  split
  · exact Hub.run_farewells.symm
  · rfl

theorem look_hub (bid : Bid ι) : (look u s t bid).shared.hub = s.hub := by
  unfold look
  dsimp only
  repeat' split
  all_goals rfl

theorem seek_hub : (seek u s t).shared.hub = s.hub := by
  unfold seek
  dsimp only
  repeat' split
  all_goals rfl

theorem followUp_hub (ending : Ending ι) (role : Role ι) : (followUp u s t ending role).shared.hub = s.hub := by
  cases role <;> cases ending <;> rfl

/-- An instruction does to the hub what it is said to do. -/
theorem hub_of_perform {i : Instr ι} {e : Effect ι} (h : perform u s ended t held i = some e) :
    e.shared.hub = s.hub.run (i.dealings u s) := by
  cases i with
  | run role script =>
    cases script with
    | ret ending => cases h; exact followUp_hub ending role
    | call c next => cases h; rfl
    | pause label => cases h
  | publish x => cases h; exact Shared.noteAll_hub _
  | subscribe id filter => cases h; exact Shared.noteAll_hub _
  | release => cases h; exact Shared.releaseOne_hub
  | disown =>
    cases h
    simp only [Instr.dealings]
    split
    · exact Shared.releaseOne_hub
    · rfl
  | take => cases h; exact seek_hub
  | retake => cases h; exact seek_hub
  | enter b =>
    simp only [perform] at h
    split at h
    · cases h; rfl
    · split at h
      · cases h; rfl
      · cases h; exact look_hub b
  | retry b =>
    simp only [perform] at h
    split at h
    · cases h; rfl
    · cases h; exact look_hub b
  | upgrade call dead =>
    cases call with
    | nil => cases h; rfl
    | cons j call =>
      simp only [perform, Option.some.injEq] at h
      split at h <;> (cases h; rfl)
  | resolve d =>
    simp only [perform, Option.some.injEq] at h
    split at h <;> (cases h; rfl)
  | completeAdding =>
    simp only [perform] at h
    split at h
    · cases h; rfl
    · split at h <;> (cases h; rfl)
  | dispose =>
    simp only [perform, Option.some.injEq] at h
    split at h <;> (cases h; rfl)
  | join w =>
    simp only [perform] at h
    split at h
    · cases h; rfl
    · cases h
  | pendingCount =>
    simp only [perform] at h
    split at h <;> (cases h; rfl)
  | pendingItems =>
    simp only [perform] at h
    split at h
    · cases h; rfl
    · split at h
      · cases h; rfl
      · split at h <;> (cases h; rfl)
  | awaitResult d =>
    simp only [perform, Option.some.injEq] at h
    split at h
    · cases h; rfl
    · split at h <;> (cases h; rfl)
  | awaitWatch =>
    simp only [perform] at h
    split at h
    · cases h; rfl
    · cases h
  | _ => cases h; rfl

end Perform

section Runs

variable {u : Setup ι} {s s₁ s₂ s' : State ι} {c : Choice ι} {cs : List (Choice ι)}

/-- A step does to the hub what it is said to do. -/
theorem hub_of_step (h : step u s c = some s') : s'.shared.hub = s.shared.hub.run (s.dealings u c) := by
  cases c with
  | run t sleeper =>
    obtain ⟨th, i, rest, e, ths, ht, -, hst, he, -, rfl⟩ := run_of_step h
    rw [hub_of_perform he, State.dealings, deed?_run ht hst, Option.toList_some, List.flatMap_singleton]
  | drain n =>
    cases h
    exact congrArg Prod.fst (s.shared.hub.drain_eq_receives n)
  | rouse t =>
    obtain ⟨th, -, -, rfl⟩ := rouse_of_step h
    rfl
  | answer t script =>
    obtain ⟨th, role, label, rest, -, -, rfl⟩ := answer_of_step h
    rfl
  | _ => cases h; rfl

/-- What a run does to the hub is a history of the hub. -/
theorem hub_of_execute (he : execute u s cs = some s') : s'.shared.hub = s.shared.hub.run (dealings u s cs) := by
  induction cs generalizing s with
  | nil => cases he; rfl
  | cons c cs ih =>
    obtain ⟨s₁, hs, he⟩ := Option.bind_eq_some_iff.1 he
    rw [ih he, hub_of_step hs, dealings, hs, Hub.run_append]

/-- The hub of a queue is what a history has made of an empty one. -/
theorem Reachable.tidy (hr : Reachable u s) : s.shared.hub.Tidy := by
  obtain ⟨cs, he⟩ := reachable_iff_execute.1 hr
  rw [hub_of_execute he]
  exact Hub.tidy_run _

/-- With the last strong reference subscriptions end, and nothing else happens. -/
theorem eq_unsubscribe_of_mem_farewells {sh : Shared ι} {a : Hub.Action} (ha : a ∈ sh.farewells) :
    ∃ id, a = .unsubscribe id := by
  unfold Shared.farewells at ha
  split at ha
  · obtain ⟨id, -, rfl⟩ := List.mem_map.1 ha
    exact ⟨id, rfl⟩
  · cases ha

theorem publications_farewells (sh : Shared ι) : Hub.publications sh.farewells = [] := by
  refine List.filterMap_eq_nil_iff.2 fun a ha => ?_
  obtain ⟨id, rfl⟩ := eq_unsubscribe_of_mem_farewells ha
  rfl

/-- An instruction publishes to the hub what it is there to publish. -/
theorem publications_dealings (i : Instr ι) (sh : Shared ι) :
    Hub.publications (i.dealings u sh) = i.publishing?.toList := by
  cases i with
  | release => exact publications_farewells sh
  | disown =>
    simp only [Instr.dealings]
    split
    · exact publications_farewells sh
    · rfl
  | _ => rfl

theorem publications_of_deed :
    Hub.publications (s.dealings u c) = ((s.deed? c).bind fun d => d.instr.publishing?).toList := by
  cases c with
  | run t sleeper =>
    simp only [State.dealings]
    cases s.deed? (.run t sleeper) with
    | none => rfl
    | some d =>
      rw [Option.toList_some, List.flatMap_singleton, publications_dealings]
      rfl
  | drain n =>
    refine List.filterMap_eq_nil_iff.2 fun a ha => ?_
    rw [List.eq_of_mem_replicate ha]
    rfl
  | _ => rfl

/-- What a step notes as published is what it publishes to the hub. -/
theorem events_of_step (hr : Reachable u s) (h : step u s c = some s') :
    s'.shared.events = s.shared.events ++ Hub.publications (s.dealings u c) := by
  have hturn := hr.turn h
  rw [publications_of_deed]
  generalize s.deed? c = d at hturn
  generalize s'.shared = sh, s'.stacks = ss at hturn
  cases hturn with
  | @act t i rest e ht hact hvoice =>
    show _ = s.shared.events ++ i.publishing?.toList
    rw [Shared.events, hvoice.publications, List.map_append]
    cases i.publishing? <;> rfl
  | same hsame hhush => rw [hhush.events]; simp
  | _ => simp

/-- What a run notes as published is what its history publishes to the hub. -/
theorem events_of_execute (hr : Reachable u s) (he : execute u s cs = some s') :
    s'.shared.events = s.shared.events ++ Hub.publications (dealings u s cs) := by
  induction cs generalizing s with
  | nil =>
    cases he
    exact (List.append_nil _).symm
  | cons c cs ih =>
    obtain ⟨s₁, hs, he⟩ := Option.bind_eq_some_iff.1 he
    rw [ih (hr.step hs) he, events_of_step hr hs, dealings, hs, Hub.publications_append, List.append_assoc]

/-! ## What a subscriber is told -/

/-- A subscription that has just been made is in force, its channel is its own, open and empty, and the caller learns
the number of the channel. -/
theorem subscription_of_step {t : ThreadId} {id : String} {filter : EventFilter} (hr : Reachable u s₁)
    (hs : step u s₁ c = some s₂) (hd : s₁.deed? c = some ⟨t, s₁.shared, .subscribe id filter⟩) :
    ∃ sub : Subscription, sub.id = id ∧ sub.filter = filter ∧ s₂.reply? t = some (.channel sub.channel) ∧
      s₂.shared.hub.Owns sub ∧ sub ∈ s₂.shared.hub.subscriptions ∧
      s₂.shared.hub.channels[sub.channel]? = some {} := by
  cases c with
  | run t' sleeper =>
    obtain ⟨th, i, rest, e, ths, ht, -, hst, he, hw, rfl⟩ := run_of_step hs
    rw [deed?_run ht hst] at hd
    cases hd
    have hlt : t < s₁.threads.length := (List.getElem?_eq_some_iff.1 ht).1
    have hhub : e.shared.hub = (s₁.shared.hub.subscribe id filter ("queue:" ++ u.name)).1 := hub_of_perform he
    have hreply : e.reply = some (.channel s₁.shared.hub.channels.length) := by
      cases he
      rfl
    refine ⟨⟨id, filter, "queue:" ++ u.name, s₁.shared.hub.channels.length, s₁.shared.hub.tallies.length⟩, rfl, rfl,
      ?_, ?_, ?_, ?_⟩
    · rw [reply?_of_wake hw, List.getElem?_set_self hlt, Option.map_some, Thread.after, hreply]
      rfl
    · rw [hhub]
      exact hr.tidy.owns id filter ("queue:" ++ u.name)
    · rw [hhub]
      exact List.mem_append_right _ List.mem_cons_self
    · rw [hhub]
      exact List.getElem?_concat_length
  | _ => cases hd

/-- No instruction shuts a channel. -/
theorem shuts_dealings {i : Instr ι} {sh : Shared ι} {a : Hub.Action} (ha : a ∈ i.dealings u sh) (n : Nat) :
    a.shuts n = false := by
  have hfarewells : a ∈ sh.farewells → a.shuts n = false := by
    intro ha
    obtain ⟨id, rfl⟩ := eq_unsubscribe_of_mem_farewells ha
    rfl
  cases i with
  | publish x => rw [List.mem_singleton.1 ha]; rfl
  | subscribe id filter => rw [List.mem_singleton.1 ha]; rfl
  | unsubscribe id => rw [List.mem_singleton.1 ha]; rfl
  | release => exact hfarewells ha
  | disown =>
    simp only [Instr.dealings] at ha
    split at ha
    · exact hfarewells ha
    · cases ha
  | _ => cases ha

/-- A step shuts a channel exactly if its receiver goes away. -/
theorem shuts_of_step (n : Nat) : (∃ a ∈ s.dealings u c, a.shuts n = true) ↔ c = .hangUp n := by
  constructor
  · rintro ⟨a, ha, hshut⟩
    cases c with
    | run t sleeper =>
      obtain ⟨d, -, ha⟩ := List.mem_flatMap.1 ha
      rw [shuts_dealings ha n] at hshut
      cases hshut
    | drain m =>
      rw [List.eq_of_mem_replicate ha] at hshut
      cases hshut
    | hangUp m =>
      rw [List.mem_singleton.1 ha] at hshut
      exact congrArg Choice.hangUp (of_decide_eq_true hshut)
    | _ => cases ha
  · rintro rfl
    exact ⟨_, List.mem_singleton_self _, decide_eq_true rfl⟩

/-- A run shuts a channel exactly if its receiver goes away. -/
theorem shuts_of_execute (he : execute u s cs = some s') (n : Nat) :
    (∃ a ∈ dealings u s cs, a.shuts n = true) ↔ .hangUp n ∈ cs := by
  induction cs generalizing s with
  | nil => simp [dealings]
  | cons c cs ih =>
    obtain ⟨s₁, hs, he⟩ := Option.bind_eq_some_iff.1 he
    simp only [dealings, hs, List.mem_append, List.mem_cons, or_and_right, exists_or]
    rw [shuts_of_step, ih he, eq_comm]

/-- What holds of a subscription of a queue in state `s`, open and with nothing pending, once the run has gone on to
`s'`. -/
structure Told (u : Setup ι) (sub : Subscription) (s : State ι) (cs : List (Choice ι)) (s' : State ι) : Prop where
  /-- What the receiver has taken, with what is pending, is the first part of what was published since and the filter
  accepts, in the order of the journal; and it is all of it while the subscription is in force and its channel open. -/
  events : ∃ later, s'.shared.events = s.shared.events ++ later ∧
    Hub.obtained sub.channel s.shared.hub (dealings u s cs) ++ s'.shared.hub.pendingOf sub.channel <+:
      later.filter sub.filter.accepts ∧
    (sub ∈ s'.shared.hub.subscriptions → s'.shared.hub.isOpen sub.channel = true →
      Hub.obtained sub.channel s.shared.hub (dealings u s cs) ++ s'.shared.hub.pendingOf sub.channel =
        later.filter sub.filter.accepts)
  inForce : sub ∈ s'.shared.hub.subscriptions ↔ Hub.keeps sub true (dealings u s cs) = true
  /-- The channel is open until its receiver goes away. -/
  isOpen : s'.shared.hub.isOpen sub.channel = true ↔ .hangUp sub.channel ∉ cs

theorem told_of_execute {sub : Subscription} (hr : Reachable u s) (ho : s.shared.hub.Owns sub)
    (hsub : sub ∈ s.shared.hub.subscriptions) (hnew : s.shared.hub.channels[sub.channel]? = some {})
    (he : execute u s cs = some s') : Told u sub s cs s' := by
  have hhub := hub_of_execute he
  have hpending : s.shared.hub.pendingOf sub.channel = [] := by rw [Hub.pendingOf, hnew]
  have hopen : s.shared.hub.isOpen sub.channel = true := by rw [Hub.isOpen, hnew]
  constructor
  case events =>
    refine ⟨_, events_of_execute hr he, ?_, ?_⟩
    · have hprefix := Hub.obtained_append_isPrefix (dealings u s cs) (k := 0) ho
      rw [hpending, List.nil_append, ← hhub] at hprefix
      exact hprefix.trans (Hub.due_isPrefix ho)
    · intro hin hstill
      have hpresent : .hangUp sub.channel ∉ dealings u s cs := by
        intro hmem
        rw [hhub, Hub.isOpen_run ho.channel_lt] at hstill
        have hshut : (Hub.Action.hangUp sub.channel).shuts sub.channel = false := hstill.2 _ hmem
        simp [Hub.Action.shuts] at hshut
      have hall := Hub.obtained_append (k := 0) ho hpresent
      rw [hpending, List.nil_append, ← hhub] at hall
      rw [← hall]
      exact Hub.due_eq_publications ho (hhub ▸ hin) (hhub ▸ hstill)
  case inForce =>
    rw [hhub, Hub.mem_run ho, hopen]
    simp [hsub]
  case isOpen =>
    rw [hhub, Hub.isOpen_run ho.channel_lt, hopen, ← shuts_of_execute he]
    simp

/-- Whoever subscribes to a queue is told what it publishes from then on and the filter accepts: whatever the threads
and the receivers do, what the receiver has taken, with what is pending, is the first part of the events that the
journal notes after the subscription and the filter accepts, and all of them while the subscription is in force and the
receiver there. -/
theorem told_of_subscribe {t : ThreadId} {id : String} {filter : EventFilter} (hr : Reachable u s₁)
    (hs : step u s₁ c = some s₂) (hd : s₁.deed? c = some ⟨t, s₁.shared, .subscribe id filter⟩) :
    ∃ sub : Subscription, sub.id = id ∧ sub.filter = filter ∧ s₂.reply? t = some (.channel sub.channel) ∧
      ∀ cs s, execute u s₂ cs = some s → Told u sub s₂ cs s := by
  obtain ⟨sub, hid, hfilter, hreply, ho, hsub, hnew⟩ := subscription_of_step hr hs hd
  exact ⟨sub, hid, hfilter, hreply, fun cs s he => told_of_execute (hr.step hs) ho hsub hnew he⟩

end Runs

end Queue

end Conveyor
