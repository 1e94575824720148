import Conveyor.Cli.Fill

/-!
# Which value a setting gets

A table gives each setting a value or none (`Toml.Table.offer`), and whether it is accepted depends on nothing but the
table (`verdict_take`). So a run through its topics comes to this: the settings keep the values they have, and those
without one get what the table offers under the topics that were accepted (`gains_fillTopics`). The three settings of
the queue stand in a section that is decoded as a whole; the defaults which this fills in are offered to nobody
(`value_assignAll`).

* `first_value_wins`: each setting keeps its value, or else gets that of the first table that offers one.
-/

namespace Conveyor

open Toml

/-! ## The queue section -/

/-- What the values of a setting of the queue are. -/
abbrev Setting.Kind : Setting → Type
  | .name => String
  | .workers => Nat
  | .capacity => Int

/-- The value of a setting of the queue that an entry of the section gives. A date stands for its text. -/
def Setting.read : (st : Setting) → Value → Option st.Kind
  | .name, .string text => some text
  | .name, .datetime d => some d.text
  | .workers, .integer n => some n.toNat
  | .capacity, .integer n => some n
  | _, _ => none

/-- The entry of a table for a key; of several the last one counts. -/
def Toml.Table.last? (t : Table) (key : String) : Option Value := t.reverse.lookup key

theorem Setting.key_injective {st st' : Setting} (h : st.key = st'.key) : st = st' := by
  cases st <;> cases st' <;> first | rfl | exact absurd h (by decide)

namespace Toml.Table

/-- The last entry for a key is in the rest of a table, or else at its head. -/
theorem last?_cons (key k : String) (v : Value) (t : Table) :
    last? ((k, v) :: t) key = (last? t key).or (if key = k then some v else none) := by
  by_cases hk : key = k
  · simp [last?, List.lookup_append, hk]
  · have hkey : (key == k) = false := beq_false_of_ne hk
    simp [last?, List.lookup_append, List.lookup_cons, hkey, hk]

theorem contains_eq (key : String) (t : Table) : t.contains key = (t.last? key).isSome := by
  induction t with
  | nil => rfl
  | cons entry t ih =>
    obtain ⟨k, v⟩ := entry
    rw [last?_cons, Option.isSome_or, ← ih]
    by_cases hk : key = k
    · simp [contains, get?, hk]
    · have hkey : (key == k) = false := beq_false_of_ne hk
      simp [contains, get?, List.lookup_cons, hkey, hk]

end Toml.Table

namespace QueueConfig

/-- The value of a setting. -/
def value (c : QueueConfig) : (st : Setting) → st.Kind
  | .name => c.name
  | .workers => c.workers
  | .capacity => c.boundedCapacity

section Assign

variable {c c' : QueueConfig} {st : Setting} {v : Value} {t : Table}

/-- An assignment gives one setting the value that it reads, and leaves the others alone. -/
theorem value_assign (h : c.assign st v = .ok c') :
    st.read v = some (c'.value st) ∧ ∀ st', st' ≠ st → c'.value st' = c.value st' := by
  unfold assign at h
  split at h
  case h_3 n =>
    split at h
    · cases h
      exact ⟨rfl, fun st' hne => by cases st' <;> first | rfl | exact absurd rfl hne⟩
    · cases h
  case h_5 => cases h
  all_goals
    cases h
    exact ⟨rfl, fun st' hne => by cases st' <;> first | rfl | exact absurd rfl hne⟩

/-- What the entries of a section assign: a setting that has an entry gets the value of the last one, any other keeps
what it has. -/
theorem value_assignAll (h : c.assignAll t = .ok c') (st : Setting) :
    (t.last? st.key).bind st.read = (if t.contains st.key then some (c'.value st) else none) ∧
      (t.contains st.key = false → c'.value st = c.value st) := by
  simp only [Table.contains_eq]
  induction t generalizing c with
  | nil =>
    cases h
    exact ⟨rfl, fun _ => rfl⟩
  | cons entry t ih =>
    obtain ⟨key, v⟩ := entry
    unfold assignAll at h
    split at h
    case h_1 => cases h
    case h_2 st' hfind =>
      obtain rfl : st'.key = key := of_decide_eq_true (List.find?_some hfind :)
      split at h
      case h_1 => cases h
      case h_2 c₁ hassign =>
        obtain ⟨hread, hothers⟩ := value_assign hassign
        obtain ⟨hrest, hkept⟩ := ih h
        rw [Table.last?_cons]
        cases hlast : Table.last? t st.key with
        | some w => simpa [hlast] using hrest
        | none =>
          have hsame : c'.value st = c₁.value st := hkept (by rw [hlast]; rfl)
          by_cases hst : st = st'
          · subst hst
            simp [hread, hsame]
          · have hne : st.key ≠ st'.key := fun heq => hst (Setting.key_injective heq)
            simp [hne, hsame, hothers st hst]

end Assign

end QueueConfig

namespace Cli

/-! ## Values and offers -/

/-- A setting that a table can give a value to. The two switches for colour are one setting. -/
inductive Field where
  | name
  | workers
  | capacity
  | items
  | producers
  | workMs
  | failEvery
  | color
  | logLevel
  | logFormat
  | logFile
deriving DecidableEq

/-- The value that a queue section has for a setting of the queue, if the section is a table that mentions it. -/
def sectionValue (st : Setting) (v : Value) : Option st.Kind := v.asTable?.bind fun t => (t.last? st.key).bind st.read

namespace Field

/-- What the values of a setting are; those for colour are whether it is asked for and whether it is asked not to be. -/
abbrev Kind : Field → Type
  | .capacity => Int
  | .workers | .items | .producers | .workMs | .failEvery => Nat
  | .color => Bool × Bool
  | .name | .logLevel | .logFormat | .logFile => String

/-- The topic that a setting belongs to. -/
def topic : Field → Topic
  | .name | .workers | .capacity => .queue
  | .items => .items
  | .producers => .producers
  | .workMs => .workMs
  | .failEvery => .failEvery
  | .color => .color
  | .logLevel => .logLevel
  | .logFormat => .logFormat
  | .logFile => .logFile

/-- The value that is in effect for a setting, given what a table has under its topic. -/
def read : (f : Field) → Value → Option f.Kind
  | .name, v => sectionValue .name v
  | .workers, v => sectionValue .workers v
  | .capacity, v => sectionValue .capacity v
  | .items, v | .producers, v | .workMs, v | .failEvery, v => v.asInteger?.map Int.toNat
  | .color, v => v.asBoolean?.map fun b => (b, !b)
  | .logLevel, v | .logFormat, v => v.asString?
  | .logFile, v => v.asString?.filter fun text => text ≠ "-" && text.toList.map Char.toLower ≠ ['n', 'o', 'n', 'e']

/-- The value that a table offers for a setting. -/
def offer (f : Field) (t : Table) : Option f.Kind := (t.get? f.topic.key).bind f.read

end Field

/-- The value that a setting has. -/
def Settings.value (s : Settings) : (f : Field) → Option f.Kind
  | .name => s.name
  | .workers => s.workers
  | .capacity => s.capacity
  | .items => s.items
  | .producers => s.producers
  | .workMs => s.workMs
  | .failEvery => s.failEvery
  | .color => if s.color || s.noColor then some (s.color, s.noColor) else none
  | .logLevel => s.logLevel
  | .logFormat => s.logFormat
  | .logFile => s.logFile

/-- Settings `s'` are the settings `s`, but for the values that `g` gives to those that have none. -/
structure Gains (s : Settings) (g : (f : Field) → Option f.Kind) (s' : Settings) : Prop where
  configFile : s'.configFile = s.configFile
  value : ∀ f, s'.value f = (s.value f).or (g f)

namespace Gains

variable {s s' s'' : Settings} {g g' : (f : Field) → Option f.Kind}

/-- The value for colour tells both switches. -/
theorem switches_of_value (h : s'.value .color = s.value .color) : s'.color = s.color ∧ s'.noColor = s.noColor := by
  simp only [Settings.value] at h
  cases hc : s.color <;> cases hn : s.noColor <;> cases hc' : s'.color <;> cases hn' : s'.noColor <;>
    simp [hc, hn, hc', hn'] at h ⊢

/-- Settings are what their values are. -/
theorem eq_of_value (hfile : s'.configFile = s.configFile) (h : ∀ f, s'.value f = s.value f) : s' = s := by
  have hcolor := switches_of_value (h .color)
  have hname : s'.name = s.name := h .name
  have hworkers : s'.workers = s.workers := h .workers
  have hcapacity : s'.capacity = s.capacity := h .capacity
  have hitems : s'.items = s.items := h .items
  have hproducers : s'.producers = s.producers := h .producers
  have hwork : s'.workMs = s.workMs := h .workMs
  have hfail : s'.failEvery = s.failEvery := h .failEvery
  have hlevel : s'.logLevel = s.logLevel := h .logLevel
  have hformat : s'.logFormat = s.logFormat := h .logFormat
  have hlog : s'.logFile = s.logFile := h .logFile
  cases s
  cases s'
  simp_all

theorem unique (h' : Gains s g s') (h'' : Gains s g s'') : s' = s'' :=
  eq_of_value (h'.configFile.trans h''.configFile.symm) fun f => (h'.value f).trans (h''.value f).symm

theorem refl (hg : ∀ f, g f = none) : Gains s g s := ⟨rfl, fun f => by rw [hg, Option.or_none]⟩

theorem congr (h : Gains s g s') (hg : ∀ f, g f = g' f) : Gains s g' s' := ⟨h.configFile, fun f => hg f ▸ h.value f⟩

theorem trans (h : Gains s g s') (h' : Gains s' g' s'') : Gains s (fun f => (g f).or (g' f)) s'' :=
  ⟨h'.configFile.trans h.configFile, fun f => by rw [h'.value, h.value, Option.or_assoc]⟩

/-- What was given once is not given again. -/
theorem again (h : Gains s g s') (h' : Gains s' g s'') : s'' = s' :=
  eq_of_value h'.configFile fun f => by
    rw [h'.value, h.value, Option.or_assoc, Option.or_self]

end Gains

/-! ## One topic -/

section Take

variable {s s' : Settings} {t : Table} {v : Value} {topic : Topic}

/-- Where a count is accepted, it is the integer that is given. -/
theorem ok_of_count {g : Nat → Settings} (h : (topic.count v).map g = .ok s') :
    ∃ n, v.asInteger?.map Int.toNat = some n ∧ g n = s' := by
  unfold Topic.count at h
  split at h
  case h_1 n hn =>
    split at h
    · cases h
      exact ⟨n.toNat, by rw [hn]; rfl, rfl⟩
    · cases h
  case h_2 => cases h

/-- A queue section gives the settings that it mentions the values that it has for them. -/
theorem gains_takeQueue (h : s.takeQueue v = .ok s') :
    Gains s (fun f => if f.topic = .queue then f.read v else none) s' := by
  unfold Settings.takeQueue at h
  split at h
  · cases h
  case h_2 q hsection =>
    split at h
    · cases h
    · cases ht : v.asTable? with
      | none =>
        rw [ht] at h
        cases h
        exact .refl fun f => by cases f <;> simp [Field.topic, Field.read, sectionValue, ht]
      | some t =>
        rw [ht] at h
        cases h
        obtain rfl : v = .table t := by
          cases v <;> cases ht
          rfl
        have hassign : ∀ st, (t.last? st.key).bind st.read = if t.contains st.key then some (q.value st) else none :=
          fun st => (QueueConfig.value_assignAll hsection st).1
        exact ⟨rfl, fun f => by
          cases f <;>
            simp [Field.topic, Field.read, sectionValue, ht, hassign, Settings.value, Settings.fillQueue,
              QueueConfig.value]⟩

/-- What a table says on a topic is given to the settings of the topic that have no value, and to no others. -/
theorem gains_takeValue (h : s.takeValue topic v = .ok s') :
    Gains s (fun f => if f.topic = topic then f.read v else none) s' := by
  cases topic with
  | queue => exact gains_takeQueue h
  | items | workMs | failEvery =>
    obtain ⟨n, hn, rfl⟩ := ok_of_count h
    exact ⟨rfl, fun f => by cases f <;> simp [Field.topic, Settings.value, Field.read, hn]⟩
  | producers =>
    have hcount :
        (Topic.producers.count v).map (fun n => { s with producers := s.producers.or (some n) }) = .ok s' := by
      simp only [Settings.takeValue] at h
      split at h
      · cases h
      · cases h
      case h_3 hc => rw [hc, ← h]; rfl
    obtain ⟨n, hn, rfl⟩ := ok_of_count hcount
    exact ⟨rfl, fun f => by cases f <;> simp [Field.topic, Settings.value, Field.read, hn]⟩
  | color =>
    simp only [Settings.takeValue] at h
    split at h
    case h_1 b hb =>
      cases h
      refine ⟨by split <;> rfl, fun f => ?_⟩
      cases f <;> cases hc : s.color <;> cases hn : s.noColor <;> cases b <;>
        simp [Field.topic, Settings.value, Field.read, hb, hc, hn]
    case h_2 hb =>
      cases h
      exact .refl fun f => by cases f <;> simp [Field.topic, Field.read, hb]
  | logLevel | logFormat =>
    cases h
    exact ⟨rfl, fun f => by cases f <;> simp [Field.topic, Settings.value, Field.read]⟩
  | logFile =>
    have hnames : namesLogFile = fun text =>
        (text ≠ "-" && text.toList.map Char.toLower ≠ ['n', 'o', 'n', 'e'] : Bool) := by
      funext text
      simp [namesLogFile, Log.Destination.isNone, Bool.and_comm]
    cases h
    exact ⟨rfl, fun f => by cases f <;> simp [Field.topic, Settings.value, Field.read, hnames]⟩

theorem gains_take (h : s.take t topic = .ok s') :
    Gains s (fun f => if f.topic = topic then f.offer t else none) s' := by
  unfold Settings.take at h
  cases hv : t.get? topic.key with
  | none =>
    rw [hv] at h
    cases h
    refine .refl fun f => ?_
    split
    case isTrue htopic => rw [Field.offer, htopic, hv]; rfl
    case isFalse => rfl
  | some v =>
    rw [hv] at h
    refine (gains_takeValue h).congr fun f => ?_
    split
    case isTrue htopic => rw [Field.offer, htopic, hv]; rfl
    case isFalse => rfl

/-- Whether a table is accepted on a topic. -/
def Topic.check (topic : Topic) (t : Table) : Except ValidationError Unit :=
  (({} : Settings).take t topic).map fun _ => ()

/-- Whether a table is accepted on a topic depends on the table alone. -/
theorem verdict_take (s : Settings) (t : Table) (topic : Topic) :
    (s.take t topic).map (fun _ => ()) = topic.check t := by
  have hcount : ∀ {g g' : Nat → Settings} (v : Value),
      ((topic.count v).map g).map (fun _ => ()) = ((topic.count v).map g').map fun _ => () := by
    intro g g' v
    cases topic.count v <;> rfl
  unfold Topic.check Settings.take
  cases t.get? topic.key with
  | none => rfl
  | some v =>
    cases topic with
    | queue =>
      simp only [Settings.takeValue, Settings.takeQueue]
      split
      · rfl
      · split <;> rfl
    | items | workMs | failEvery => exact hcount v
    | producers =>
      simp only [Settings.takeValue]
      split <;> rfl
    | color =>
      simp only [Settings.takeValue]
      cases v.asBoolean? <;> rfl
    | logLevel | logFormat | logFile => rfl

end Take

/-! ## All topics -/

section Fill

variable {s : Settings} {t : Table}

/-- The topics on which a table is accepted before it is refused on one. -/
def accepted (t : Table) (topics : List Topic) : List Topic := topics.takeWhile fun topic => (topic.check t).isOk

theorem verdict_fillTopics (s : Settings) (topics : List Topic) :
    (Settings.fillTopics t topics s).2 = forM topics (·.check t) := by
  induction topics generalizing s with
  | nil => rfl
  | cons topic topics ih =>
    have hcheck := verdict_take s t topic
    rw [Settings.fillTopics, List.forM_cons, ← hcheck]
    cases s.take t topic with
    | error e => rfl
    | ok s₁ => exact ih s₁

theorem gains_fillTopics (s : Settings) (topics : List Topic) :
    Gains s (fun f => if f.topic ∈ accepted t topics then f.offer t else none) (Settings.fillTopics t topics s).1 := by
  induction topics generalizing s with
  | nil => exact .refl fun f => rfl
  | cons topic topics ih =>
    have hcheck := verdict_take s t topic
    rw [Settings.fillTopics]
    cases hs : s.take t topic with
    | error e =>
      have hnone : accepted t (topic :: topics) = [] := by
        rw [accepted, List.takeWhile_cons, ← hcheck, hs]
        rfl
      exact .refl fun f => by simp [hnone]
    | ok s₁ =>
      have hmore : accepted t (topic :: topics) = topic :: accepted t topics := by
        rw [accepted, List.takeWhile_cons, ← hcheck, hs]
        rfl
      refine ((gains_take hs).trans (ih s₁)).congr fun f => ?_
      rw [hmore]
      by_cases htopic : f.topic = topic
      · rw [if_pos htopic, if_pos (List.mem_cons.2 (.inl htopic))]
        split
        · exact Option.or_self
        · exact Option.or_none
      · simp [htopic]

theorem accepted_of_ok {topics : List Topic} (h : forM topics (·.check t) = Except.ok ()) :
    accepted t topics = topics := by
  induction topics with
  | nil => rfl
  | cons topic topics ih =>
    rw [List.forM_cons] at h
    cases hcheck : topic.check t with
    | error e =>
      rw [hcheck] at h
      cases h
    | ok _ =>
      rw [hcheck] at h
      rw [accepted, List.takeWhile_cons, hcheck]
      exact congrArg (topic :: ·) (ih h)

theorem Topic.mem_all (topic : Topic) : topic ∈ Topic.all := by cases topic <;> decide

/-- A table that is accepted gives all that it offers. -/
theorem gains_fill {s' : Settings} (h : s.fill t = (s', .ok ())) : Gains s (fun f => f.offer t) s' := by
  have hverdict := verdict_fillTopics (t := t) s Topic.all
  have hgains := gains_fillTopics (t := t) s Topic.all
  rw [← Settings.fill, h] at hverdict hgains
  rw [accepted_of_ok hverdict.symm] at hgains
  exact hgains.congr fun f => if_pos f.topic.mem_all

/-- A table counts by what it has under the keys of the topics. -/
theorem fill_congr {t' : Table} (h : ∀ topic : Topic, t'.get? topic.key = t.get? topic.key) : s.fill t' = s.fill t := by
  unfold Settings.fill
  induction Topic.all generalizing s with
  | nil => rfl
  | cons topic topics ih =>
    rw [Settings.fillTopics, Settings.fillTopics, Settings.take, Settings.take, h topic]
    split
    · rfl
    · exact ih

end Fill

/-! ## Several tables -/

/-- Fills the settings that have no value yet from several tables in turn, up to the first that is refused. -/
def Settings.fillAll (s : Settings) (tables : List Table) : Except ValidationError Settings :=
  tables.foldlM (fun s t => (s.fill t).2.map fun _ => (s.fill t).1) s

theorem gains_fillAll {s s' : Settings} {tables : List Table} (h : s.fillAll tables = .ok s') :
    Gains s (fun f => tables.findSome? f.offer) s' := by
  induction tables generalizing s with
  | nil =>
    cases h
    exact .refl fun f => rfl
  | cons t tables ih =>
    rw [Settings.fillAll, List.foldlM_cons] at h
    cases hverdict : (s.fill t).2 with
    | error e =>
      rw [hverdict] at h
      cases h
    | ok _ =>
      rw [hverdict] at h
      have hfill : s.fill t = ((s.fill t).1, .ok ()) := Prod.ext rfl hverdict
      refine ((gains_fill hfill).trans (ih h)).congr fun f => ?_
      rw [List.findSome?_cons]
      cases f.offer t <;> rfl

/-- **The first value wins.** Where all tables of a list are accepted in turn, each setting keeps the value that it has;
one that has none gets that of the first table that offers one, and stays without if none does. The path of the
configuration file stays as it is, and nothing that a table has under other keys counts. -/
theorem first_value_wins {s s' : Settings} {tables : List Table} (h : s.fillAll tables = .ok s') :
    s'.configFile = s.configFile ∧ (∀ f, s'.value f = (s.value f).or (tables.findSome? f.offer)) ∧
      ∀ (r : Settings) (t t' : Table), (∀ topic : Topic, t'.get? topic.key = t.get? topic.key) →
        r.fill t' = r.fill t := by
  obtain ⟨hfile, hvalue⟩ := gains_fillAll h
  exact ⟨hfile, hvalue, fun r t t' => fill_congr⟩

/-- Settings with a name of the queue and a number of items. -/
def sampleSettings : Settings := { configFile := some "own.toml", name := some "line", items := some 3 }

/-- Three tables: one that bounds the queue and wants no log file, one that speaks of the rest of the queue and of a key
that nobody knows, and one that speaks of what the others speak of. -/
def sampleTables : List Table :=
  [[("items", .integer 8), ("log-file", .string "NONE"), ("queue", .table [("bounded_capacity", .integer 5)])],
    [("color", .boolean false), ("colour", .boolean true),
      ("queue", .table [("max_concurrency_level", .integer 2), ("name", .string "belt")])],
    [("color", .boolean true), ("log-file", .string "run.log"),
      ("queue", .table [("bounded_capacity", .integer 9), ("max_concurrency_level", .integer 4)])]]

theorem sample_first_value_wins :
    ∃ s', sampleSettings.fillAll sampleTables = .ok s' ∧ s'.configFile = some "own.toml" ∧
      s'.value .name = some "line" ∧ s'.value .workers = some 2 ∧ s'.value .capacity = some 5 ∧
      s'.value .items = some 3 ∧ s'.value .producers = none ∧ s'.value .color = some (false, true) ∧
      s'.value .logFile = some "run.log" := by
  obtain ⟨s', h⟩ : ∃ s', sampleSettings.fillAll sampleTables = .ok s' := ⟨_, rfl⟩
  obtain ⟨hfile, hvalue, -⟩ := first_value_wins h
  refine ⟨s', h, hfile, ?_⟩
  simp only [hvalue]
  exact ⟨rfl, rfl, rfl, rfl, rfl, rfl, rfl⟩

end Cli

end Conveyor
