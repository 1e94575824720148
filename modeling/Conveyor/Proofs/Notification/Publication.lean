import Conveyor.Proofs.Notification.Delivery
import Mathlib.Data.List.Perm.Basic

/-!
# One publication

A published event finds each subscription in one of three ways: its filter rejects the event, or its channel takes it,
or its channel is closed. `publish` says at once what comes of all of them; `publishAlong` walks from one subscription to
the next in any given order, offers each the event (`offer`) and ends those with a closed channel afterwards. What an
offer does to a channel (`sent`) and to a tally (`marked`) hangs on nothing that earlier offers change (`foldl_offer`),
and no two subscriptions share a channel or a tally (`Sound`), so every walk comes to the same hub.

* `sound_run`: whatever is done to a hub, it stays sound.
* `publish_partitions`: what a publication does to each subscription, to its channel and to its tally, what it answers,
  and that the order of the walk makes no difference.
-/

namespace Conveyor.Hub

/-! ## Sound hubs -/

/-- A tidy hub in which each subscription has a channel and a tally of its own. -/
structure Sound (h : Hub) : Prop extends Tidy h where
  owns : ∀ s ∈ h.subscriptions, Owns h s

section Sound

variable {h : Hub}

theorem sound_empty : Sound {} where
  toTidy := tidy_empty
  owns _ hs := absurd hs List.not_mem_nil

theorem sound_act (hs : Sound h) (a : Action) : Sound (h.act a) where
  toTidy := tidy_act hs.toTidy a
  owns s hmem := by
    have kept : s ∈ h.subscriptions → Owns (h.act a) s := fun hold => owns_act (hs.owns s hold) a
    cases a with
    | subscribe id filter source =>
      rcases List.mem_append.1 hmem with hold | hnew
      · exact kept (List.mem_filter.1 hold).1
      · rw [List.mem_singleton.1 hnew]
        exact hs.toTidy.owns id filter source
    | unsubscribe id => exact kept (List.mem_filter.1 hmem).1
    | publish e => exact kept (List.mem_filter.1 hmem).1
    | _ => exact kept hmem

/-- Whatever is done to a hub, it stays sound. -/
theorem sound_run (as : List Action) : Sound (run {} as) := by
  induction as using List.reverseRecOn with
  | nil => exact sound_empty
  | append_singleton as a ih =>
    rw [run_append]
    exact sound_act ih a

/-- The subscriptions of a sound hub in any order have channels of their own. -/
theorem Sound.nodup_channels (hs : Sound h) {order : List Subscription} (ho : order.Perm h.subscriptions) :
    (order.map (·.channel)).Nodup := by
  refine ((ho.map _).nodup_iff).2 (hs.ids.of_map.map_on fun s hmem s' hmem' heq => ?_)
  exact (hs.owns s' hmem').channel s hmem heq

theorem Sound.nodup_tallies (hs : Sound h) {order : List Subscription} (ho : order.Perm h.subscriptions) :
    (order.map (·.tally)).Nodup := by
  refine ((ho.map _).nodup_iff).2 (hs.ids.of_map.map_on fun s hmem s' hmem' heq => ?_)
  exact (hs.owns s' hmem').tally s hmem heq

end Sound

/-! ## What one subscription makes of an event -/

/-- What the offer of an event does to the channel of a subscription. -/
def sent (h : Hub) (e : QueueEvent) (s : Subscription) : Channel → Channel :=
  if s.filter.accepts e && h.isOpen s.channel then fun c => { c with pending := c.pending ++ [e] } else id

/-- What the offer of an event does to the tally of a subscription. -/
def marked (h : Hub) (e : QueueEvent) (s : Subscription) : Tally → Tally :=
  if s.filter.accepts e then if h.isOpen s.channel then Tally.recordDelivered else Tally.recordError else id

section Publish

variable {h : Hub} {e : QueueEvent} {s : Subscription}

theorem mem_publish : s ∈ (h.publish e).1.subscriptions ↔
    s ∈ h.subscriptions ∧ (s.filter.accepts e = true → h.isOpen s.channel = true) := by
  simp only [publish, List.mem_filter]
  cases s.filter.accepts e <;> simp

theorem channel_publish (hs : Sound h) (hmem : s ∈ h.subscriptions) :
    (h.publish e).1.channels[s.channel]? = h.channels[s.channel]?.map (h.sent e s) := by
  have hreached : (h.reached e).any (·.channel = s.channel) = true ↔
      (s.filter.accepts e && h.isOpen s.channel) = true := by
    rw [(hs.owns s hmem).any_channel fun _ hin => (mem_reached_iff.1 hin).1, mem_reached_iff]
    simp [hmem]
  simp only [publish, List.getElem?_mapIdx]
  refine congrArg (fun f => h.channels[s.channel]?.map f) (funext fun c => ?_)
  rw [if_congr hreached rfl rfl, sent]
  split <;> rfl

theorem tally_publish (hs : Sound h) (hmem : s ∈ h.subscriptions) :
    (h.publish e).1.tallies[s.tally]? = h.tallies[s.tally]?.map (h.marked e s) := by
  have howns := hs.owns s hmem
  have hreached : (h.reached e).any (·.tally = s.tally) = true ↔ s ∈ h.reached e :=
    howns.any_tally fun _ hin => (mem_reached_iff.1 hin).1
  have hfailed : (h.failed e).any (·.tally = s.tally) = true ↔ s ∈ h.failed e :=
    howns.any_tally fun _ hin => (mem_failed_iff.1 hin).1
  simp only [publish, List.getElem?_mapIdx]
  refine congrArg (fun f => h.tallies[s.tally]?.map f) (funext fun t => ?_)
  rw [if_congr hreached rfl (if_congr hfailed rfl rfl), marked]
  cases hacc : s.filter.accepts e <;> cases hopen : h.isOpen s.channel <;>
    simp [mem_reached_iff, mem_failed_iff, hmem, hacc, hopen]

/-- A channel that no subscription has is left alone. -/
theorem channel_publish_of_nobody {n : Nat} (hn : ∀ s ∈ h.subscriptions, s.channel ≠ n) :
    (h.publish e).1.channels[n]? = h.channels[n]? := by
  have hreached : ¬(h.reached e).any (·.channel = n) = true := by
    simpa using fun s hin => hn s (mem_reached_iff.1 hin).1
  simp only [publish, List.getElem?_mapIdx, if_neg hreached, Option.map_id']

theorem tally_publish_of_nobody {n : Nat} (hn : ∀ s ∈ h.subscriptions, s.tally ≠ n) :
    (h.publish e).1.tallies[n]? = h.tallies[n]? := by
  have hreached : ¬(h.reached e).any (·.tally = n) = true := by
    simpa using fun s hin => hn s (mem_reached_iff.1 hin).1
  have hfailed : ¬(h.failed e).any (·.tally = n) = true := by
    simpa using fun s hin => hn s (mem_failed_iff.1 hin).1
  simp only [publish, List.getElem?_mapIdx, if_neg hreached, if_neg hfailed, Option.map_id']

/-- Publishing answers without an error exactly if it ends nothing. -/
theorem verdict_publish : (h.publish e).2.1 = .ok () ↔ (h.publish e).1.subscriptions = h.subscriptions := by
  have hnone : (h.publish e).2.1 = .ok () ↔ h.failed e = [] := by
    simp only [publish]
    cases h.failed e <;> simp
  rw [hnone, failed, List.filter_eq_nil_iff]
  exact (List.filter_eq_self.trans (forall₂_congr fun s _ => by cases s.filter.accepts e <;> simp)).symm

end Publish

/-! ## The walk -/

/-- Offers an event to one subscription; the id of one that accepts it but whose channel is closed is put down. -/
def offer (e : QueueEvent) (w : Hub × List String) (s : Subscription) : Hub × List String :=
  if s.filter.accepts e then
    if w.1.isOpen s.channel then
      ({ w.1 with
          channels := w.1.channels.modify s.channel fun c => { c with pending := c.pending ++ [e] }
          tallies := w.1.tallies.modify s.tally Tally.recordDelivered }, w.2)
    else ({ w.1 with tallies := w.1.tallies.modify s.tally Tally.recordError }, w.2 ++ [s.id])
  else w

/-- Publishes an event on a walk through the subscriptions in a given order. -/
def publishAlong (h : Hub) (order : List Subscription) (e : QueueEvent) :
    Hub × Except NotificationError Unit × List Log.Notice :=
  let w := order.foldl (offer e) (h, [])
  (w.2.foldl (fun h id => (h.unsubscribe id).1) w.1,
   if w.2.isEmpty then .ok () else .error (.publishFailed e.type.name w.2),
   w.2.map .subscriberRemoved)

section Modify

variable {α β : Type} {i : β → Nat} {f : β → α → α} {l : List β} {xs : List α}

theorem getElem?_foldl_modify_of_ne {n : Nat} (hn : ∀ b ∈ l, i b ≠ n) :
    (l.foldl (fun xs b => xs.modify (i b) (f b)) xs)[n]? = xs[n]? := by
  induction l generalizing xs with
  | nil => rfl
  | cons b l ih =>
    rw [List.foldl_cons, ih fun a ha => hn a (List.mem_cons_of_mem _ ha),
      List.getElem?_modify_ne _ _ (hn b List.mem_cons_self)]

/-- Of changes at places of their own, each shows at its place. -/
theorem getElem?_foldl_modify (hl : (l.map i).Nodup) {b : β} (hb : b ∈ l) :
    (l.foldl (fun xs b => xs.modify (i b) (f b)) xs)[i b]? = xs[i b]?.map (f b) := by
  induction l generalizing xs with
  | nil => cases hb
  | cons a l ih =>
    obtain ⟨ha, hl⟩ := List.nodup_cons.1 hl
    have hne : ∀ b ∈ l, i b ≠ i a := fun b hb heq => ha (heq ▸ List.mem_map_of_mem hb)
    rw [List.foldl_cons]
    rcases List.mem_cons.1 hb with rfl | hb
    · rw [getElem?_foldl_modify_of_ne hne, List.getElem?_modify_eq]
      rfl
    · rw [ih hl hb, List.getElem?_modify_ne _ _ (hne b hb).symm]

/-- What comes of changes at places of their own, place by place. -/
theorem foldl_modify_eq {ys : List α} (hl : (l.map i).Nodup) (hat : ∀ b ∈ l, ys[i b]? = xs[i b]?.map (f b))
    (hother : ∀ n, (∀ b ∈ l, i b ≠ n) → ys[n]? = xs[n]?) :
    l.foldl (fun xs b => xs.modify (i b) (f b)) xs = ys := by
  refine List.ext_getElem? fun n => ?_
  by_cases hn : ∃ b ∈ l, i b = n
  · obtain ⟨b, hb, rfl⟩ := hn
    rw [getElem?_foldl_modify hl hb, hat b hb]
  · have hne : ∀ b ∈ l, i b ≠ n := fun b hb heq => hn ⟨b, hb, heq⟩
    rw [getElem?_foldl_modify_of_ne hne, hother n hne]

end Modify

section Walk

variable {h : Hub} {e : QueueEvent} {order : List Subscription}

/-- Whether a subscription is to end because of an event. -/
def isFailed (h : Hub) (e : QueueEvent) (s : Subscription) : Bool := s.filter.accepts e && !h.isOpen s.channel

theorem isFailed_iff {s : Subscription} (hmem : s ∈ h.subscriptions) :
    h.isFailed e s = true ↔ s ∉ (h.publish e).1.subscriptions := by
  rw [mem_publish, isFailed]
  cases s.filter.accepts e <;> simp [hmem]

theorem offer_eq (w : Hub × List String) (s : Subscription) : offer e w s =
    ({ w.1 with
        channels := w.1.channels.modify s.channel (w.1.sent e s)
        tallies := w.1.tallies.modify s.tally (w.1.marked e s) },
      w.2 ++ ([s].filter (w.1.isFailed e)).map (·.id)) := by
  cases hacc : s.filter.accepts e with
  | false => simp [offer, sent, marked, isFailed, hacc, List.modify_id]
  | true => cases hopen : w.1.isOpen s.channel <;> simp [offer, sent, marked, isFailed, hacc, hopen, List.modify_id]

/-- An offer opens and closes nothing. -/
theorem isOpen_offer (w : Hub × List String) (s : Subscription) : (offer e w s).1.isOpen = w.1.isOpen := by
  have hsent : ∀ c, (w.1.sent e s c).isOpen = c.isOpen := fun c => by
    unfold sent
    split <;> rfl
  funext n
  rw [offer_eq]
  simp only [isOpen, List.getElem?_modify]
  cases w.1.channels[n]? with
  | none => rfl
  | some c => by_cases hn : s.channel = n <;> simp [hn, hsent]

/-- All offers of a walk, told by how the hub was when it began. -/
theorem foldl_offer (w : Hub × List String) : order.foldl (offer e) w =
    ({ w.1 with
        channels := order.foldl (fun cs s => cs.modify s.channel (w.1.sent e s)) w.1.channels
        tallies := order.foldl (fun ts s => ts.modify s.tally (w.1.marked e s)) w.1.tallies },
      w.2 ++ (order.filter (w.1.isFailed e)).map (·.id)) := by
  induction order generalizing w with
  | nil => simp
  | cons s order ih =>
    have hopen := isOpen_offer (e := e) w s
    have hsent : (offer e w s).1.sent e = w.1.sent e := by
      unfold sent
      rw [hopen]
    have hmarked : (offer e w s).1.marked e = w.1.marked e := by
      unfold marked
      rw [hopen]
    have hfailed : (offer e w s).1.isFailed e = w.1.isFailed e := by
      unfold isFailed
      rw [hopen]
    rw [List.foldl_cons, ih, hsent, hmarked, hfailed, offer_eq]
    simp [← List.map_append, ← List.filter_append]

/-- To end the subscriptions under several ids, one after the other. -/
theorem foldl_unsubscribe (ids : List String) : ids.foldl (fun h id => (h.unsubscribe id).1) h =
    { h with subscriptions := h.subscriptions.filter fun s => !ids.contains s.id } := by
  induction ids generalizing h with
  | nil => simp
  | cons id ids ih =>
    rw [List.foldl_cons, ih]
    simp [unsubscribe, List.filter_filter, Bool.and_comm]

/-- Whatever the order of the walk, it comes to what publishing comes to, but for the order of what it reports. -/
theorem publishAlong_eq (hs : Sound h) (ho : order.Perm h.subscriptions) :
    h.publishAlong order e = ((h.publish e).1,
      if (order.filter (h.isFailed e)).isEmpty then .ok ()
      else .error (.publishFailed e.type.name ((order.filter (h.isFailed e)).map (·.id))),
      (order.filter (h.isFailed e)).map fun s => .subscriberRemoved s.id) := by
  have hmem : ∀ {s}, s ∈ order ↔ s ∈ h.subscriptions := ho.mem_iff
  have hchannels :
      order.foldl (fun cs s => cs.modify s.channel (h.sent e s)) h.channels = (h.publish e).1.channels :=
    foldl_modify_eq (hs.nodup_channels ho) (fun s hin => channel_publish hs (hmem.1 hin)) fun n hn =>
      channel_publish_of_nobody fun s hin => hn s (hmem.2 hin)
  have htallies : order.foldl (fun ts s => ts.modify s.tally (h.marked e s)) h.tallies = (h.publish e).1.tallies :=
    foldl_modify_eq (hs.nodup_tallies ho) (fun s hin => tally_publish hs (hmem.1 hin)) fun n hn =>
      tally_publish_of_nobody fun s hin => hn s (hmem.2 hin)
  have hsubscriptions : (h.subscriptions.filter fun s => !((order.filter (h.isFailed e)).map (·.id)).contains s.id) =
      (h.publish e).1.subscriptions := by
    refine List.filter_congr fun s hin => congrArg not (Bool.eq_iff_iff.2 ?_)
    rw [List.contains_iff_mem, List.mem_map]
    constructor
    · -- an id belongs to one subscription only
      rintro ⟨s', hin', hid⟩
      obtain ⟨hin', hfailed⟩ := List.mem_filter.1 hin'
      rwa [← List.inj_on_of_nodup_map hs.ids (hmem.1 hin') hin hid]
    · exact fun hfailed => ⟨s, List.mem_filter.2 ⟨hmem.2 hin, hfailed⟩, rfl⟩
  simp only [publishAlong, foldl_offer, foldl_unsubscribe, List.nil_append, hchannels, htallies, hsubscriptions,
    List.isEmpty_map, List.map_map]
  rfl

/-- The ids that a walk puts down are those of the subscriptions that end, each once. -/
theorem nodup_report (hs : Sound h) (ho : order.Perm h.subscriptions) :
    ((order.filter (h.isFailed e)).map (·.id)).Nodup :=
  (((ho.map _).nodup_iff).2 hs.ids).sublist (List.filter_sublist.map _)

theorem mem_report (ho : order.Perm h.subscriptions) {id : String} :
    id ∈ (order.filter (h.isFailed e)).map (·.id) ↔
      ∃ s ∈ h.subscriptions, s.id = id ∧ s ∉ (h.publish e).1.subscriptions := by
  rw [List.mem_map]
  constructor
  · rintro ⟨s, hin, rfl⟩
    obtain ⟨hin, hends⟩ := List.mem_filter.1 hin
    exact ⟨s, ho.mem_iff.1 hin, rfl, (isFailed_iff (ho.mem_iff.1 hin)).1 hends⟩
  · rintro ⟨s, hin, rfl, hends⟩
    exact ⟨s, List.mem_filter.2 ⟨ho.mem_iff.2 hin, (isFailed_iff hin).2 hends⟩, rfl⟩

end Walk

/-! ## Publications -/

/-- What comes of the publication of an event. -/
structure Partitions (h : Hub) (e : QueueEvent) : Prop where
  /-- A subscription that accepts the event and whose channel is open gets it, once. -/
  delivered : ∀ s ∈ h.subscriptions, s.filter.accepts e = true → ∀ c, h.channels[s.channel]? = some c →
    c.isOpen = true → ∀ t, h.tallies[s.tally]? = some t → s ∈ (h.publish e).1.subscriptions ∧
      (h.publish e).1.channels[s.channel]? = some { c with pending := c.pending ++ [e] } ∧
      (h.publish e).1.tallies[s.tally]? = some { t with delivered := t.delivered + 1, hasLast := true }
  /-- One that accepts the event and whose channel is closed ends. -/
  ended : ∀ s ∈ h.subscriptions, s.filter.accepts e = true → ∀ c, h.channels[s.channel]? = some c →
    c.isOpen = false → ∀ t, h.tallies[s.tally]? = some t → s ∉ (h.publish e).1.subscriptions ∧
      (h.publish e).1.channels[s.channel]? = some c ∧
      (h.publish e).1.tallies[s.tally]? = some { t with errors := t.errors + 1 }
  /-- One that rejects the event is left as it is, whether its channel is open or closed. -/
  passed : ∀ s ∈ h.subscriptions, s.filter.accepts e = false → s ∈ (h.publish e).1.subscriptions ∧
    (h.publish e).1.channels[s.channel]? = h.channels[s.channel]? ∧
    (h.publish e).1.tallies[s.tally]? = h.tallies[s.tally]?
  /-- No subscription is new, and those that stay keep their order. -/
  kept : (h.publish e).1.subscriptions.Sublist h.subscriptions
  channels : ∀ n, (∀ s ∈ h.subscriptions, s.channel ≠ n) → (h.publish e).1.channels[n]? = h.channels[n]?
  tallies : ∀ n, (∀ s ∈ h.subscriptions, s.tally ≠ n) → (h.publish e).1.tallies[n]? = h.tallies[n]?
  verdict : (h.publish e).2.1 = .ok () ↔ (h.publish e).1.subscriptions = h.subscriptions
  /-- In whatever order the subscriptions are walked through, the hub comes out the same, and those that ended are
  reported, each once. -/
  along : ∀ order : List Subscription, order.Perm h.subscriptions → ∃ ids : List String, ids.Nodup ∧
    (∀ id, id ∈ ids ↔ ∃ s ∈ h.subscriptions, s.id = id ∧ s ∉ (h.publish e).1.subscriptions) ∧
    h.publishAlong order e = ((h.publish e).1,
      if ids = [] then .ok () else .error (.publishFailed e.type.name ids), ids.map .subscriberRemoved)
  /-- The order in which publishing itself reports is one of these. -/
  own : h.publish e = h.publishAlong h.subscriptions e

/-- **One publication partitions the subscriptions.** In every sound hub, an event is appended once to each channel that
is open and whose subscription accepts it; the subscriptions that accept it and whose channel is closed, and no others,
end, and are reported by their ids, each once; all else stays as it was. The order in which the subscriptions are walked
through makes no difference but to the order of that report. -/
theorem publish_partitions {h : Hub} (hs : Sound h) (e : QueueEvent) : Partitions h e := by
  have hopen : ∀ {s : Subscription} {c}, h.channels[s.channel]? = some c → h.isOpen s.channel = c.isOpen := by
    intro s c hc
    rw [isOpen, hc]
  constructor
  case delivered =>
    intro s hin hacc c hc ho t ht
    have hopen := (hopen hc).trans ho
    rw [channel_publish hs hin, tally_publish hs hin, hc, ht, mem_publish]
    exact ⟨⟨hin, fun _ => hopen⟩, by simp [sent, hacc, hopen], by simp [marked, hacc, hopen, Tally.recordDelivered]⟩
  case ended =>
    intro s hin hacc c hc ho t ht
    have hopen := (hopen hc).trans ho
    rw [channel_publish hs hin, tally_publish hs hin, hc, ht, mem_publish]
    refine ⟨fun hstays => ?_, by simp [sent, hopen], by simp [marked, hacc, hopen, Tally.recordError]⟩
    rw [hstays.2 hacc] at hopen
    cases hopen
  case passed =>
    intro s hin hacc
    rw [channel_publish hs hin, tally_publish hs hin, mem_publish]
    exact ⟨⟨hin, fun hyes => absurd hyes (by simp [hacc])⟩, by simp [sent, hacc], by simp [marked, hacc]⟩
  case kept => exact List.filter_sublist
  case channels => exact fun n => channel_publish_of_nobody
  case tallies => exact fun n => tally_publish_of_nobody
  case verdict => exact verdict_publish
  case along =>
    intro order ho
    refine ⟨_, nodup_report hs ho, fun id => mem_report ho, ?_⟩
    rw [publishAlong_eq hs ho]
    simp [List.isEmpty_iff]
  case own =>
    rw [publishAlong_eq hs (.refl _)]
    rfl

/-- Five subscriptions, two of them to failures only; the channels of the last three are closed, the first of these with
an event pending. -/
def sampleHub : Hub :=
  run {} [.subscribe "log" .all "first", .subscribe "alarm" .exceptionsOnly "second",
    .subscribe "gone" .lifecycleOnly "third", .subscribe "idle" .exceptionsOnly "fourth",
    .subscribe "lost" .all "fifth", .publish { type := .addingCompleted, queue := "q" }, .close 2, .hangUp 3, .hangUp 4]

theorem sample_publish_partitions :
    Sound sampleHub ∧ Partitions sampleHub { type := .completed, queue := "q" } ∧
      (sampleHub.publish { type := .completed, queue := "q" }).1.tallies =
        [⟨2, 0, true⟩, ⟨0, 0, false⟩, ⟨1, 1, true⟩, ⟨0, 0, false⟩, ⟨1, 1, true⟩] ∧
      (sampleHub.publish { type := .completed, queue := "q" }).2.1 =
        .error (.publishFailed "Completed" ["gone", "lost"]) ∧
      (sampleHub.publishAlong sampleHub.subscriptions.reverse { type := .completed, queue := "q" }).2.1 =
        .error (.publishFailed "Completed" ["lost", "gone"]) ∧
      (sampleHub.publishAlong sampleHub.subscriptions.reverse { type := .completed, queue := "q" }).1 =
        (sampleHub.publish { type := .completed, queue := "q" }).1 := by
  have hsound : Sound sampleHub := sound_run _
  have hparts := publish_partitions hsound { type := .completed, queue := "q" }
  obtain ⟨ids, -, -, halong⟩ := hparts.along _ (List.reverse_perm _)
  exact ⟨hsound, hparts, rfl, rfl, rfl, congrArg (·.1) halong⟩

end Conveyor.Hub
