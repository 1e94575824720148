import Conveyor.Cli.ConfigFile
import Conveyor.Proofs.Cli.Precedence

/-!
# What a refused configuration leaves behind

A table can be refused on the first five topics only (`checked_of_refused`), and only the first refusal counts. The
settings are then as if the table had ended before that topic: `Table.only` is the part of a table that speaks of some
topics, and to take up that part is to take up those topics (`fill_only`).

* `fill_fill`: the same table again gets the same verdict and changes nothing.
* `load_cases`: a file either is not taken up at all, whatever the settings, or settings are filled from its table.
* `refused_and_repeated`: what a table that is refused leaves behind, and what a repetition does.
-/

namespace Conveyor

open Toml

/-- The part of a table that speaks of some topics. -/
def Toml.Table.only (t : Table) (topics : List Cli.Topic) : Table :=
  t.filter fun entry => topics.any fun topic => topic.key = entry.1

namespace Cli

/-! ## Parts of a table -/

namespace Topic

/-- The topics on which a table can be refused, in the order in which they are taken up. -/
def checked : List Topic := [.queue, .items, .producers, .workMs, .failEvery]

/-- The topics on which a table can be refused and that come before a topic. -/
def before (topic : Topic) : List Topic := checked.takeWhile (· ≠ topic)

theorem key_injective {topic topic' : Topic} (h : topic.key = topic'.key) : topic = topic' := by
  cases topic <;> cases topic' <;> first | rfl | exact absurd h (by decide)

/-- A topic on which a table can be refused has the same topics before it among all. -/
theorem before_eq {topic : Topic} (h : topic ∈ checked) : all.takeWhile (· ≠ topic) = topic.before := by
  revert topic
  decide

theorem filter_before (topic : Topic) : all.filter (· ∈ topic.before) = topic.before := by
  cases topic <;> decide

end Topic

section Part

variable {s : Settings} {t : Table} {topics : List Topic} {topic : Topic}

/-- Whether some of the topics has the key of a topic is whether the topic is among them. -/
theorem any_key : (topics.any fun other => other.key = topic.key) = decide (topic ∈ topics) := by
  rw [Bool.eq_iff_iff, List.any_eq_true, decide_eq_true_eq]
  constructor
  · rintro ⟨other, hin, heq⟩
    exact Topic.key_injective (of_decide_eq_true heq) ▸ hin
  · exact fun hin => ⟨topic, hin, decide_eq_true rfl⟩

theorem get?_only : (t.only topics).get? topic.key = if topic ∈ topics then t.get? topic.key else none := by
  unfold Table.only Table.get?
  induction t with
  | nil => exact (ite_self none).symm
  | cons entry t ih =>
    obtain ⟨key, v⟩ := entry
    by_cases hkey : topic.key = key
    · subst hkey
      rw [List.filter_cons, any_key, List.lookup_cons_self]
      by_cases hin : topic ∈ topics
      · simp [hin]
      · simpa [hin] using ih
    · have hskip : (topic.key == key) = false := beq_false_of_ne hkey
      rw [List.filter_cons, List.lookup_cons, hskip, ← ih]
      split
      · rw [List.lookup_cons, hskip]
      · rfl

/-- To fill settings from a part of a table is to take up the topics that it speaks of. -/
theorem fill_only (s : Settings) :
    s.fill (t.only topics) = Settings.fillTopics t (Topic.all.filter (· ∈ topics)) s := by
  unfold Settings.fill
  induction Topic.all generalizing s with
  | nil => rfl
  | cons topic rest ih =>
    by_cases hin : topic ∈ topics
    · have htake : s.take (t.only topics) topic = s.take t topic := by
        rw [Settings.take, get?_only, if_pos hin, Settings.take]
      rw [List.filter_cons_of_pos (by simpa using hin), Settings.fillTopics, Settings.fillTopics, htake]
      cases s.take t topic with
      | error e => rfl
      | ok s₁ => exact ih s₁
    · have htake : s.take (t.only topics) topic = .ok s :=
        Settings.take_of_get?_eq_none (by rw [get?_only, if_neg hin])
      rw [List.filter_cons_of_neg (by simpa using hin), Settings.fillTopics, htake]
      exact ih s

end Part

/-! ## The first refusal -/

section Refusal

variable {s s' : Settings} {t : Table} {e : ValidationError} {topic : Topic}

/-- A topic after the first five is never refused. -/
theorem checked_of_refused (h : topic.check t = .error e) : topic ∈ Topic.checked := by
  unfold Topic.check Settings.take at h
  cases hv : t.get? topic.key with
  | none =>
    rw [hv] at h
    cases h
  | some v =>
    rw [hv] at h
    cases topic with
    | queue | items | producers | workMs | failEvery => decide
    | color =>
      simp only [Settings.takeValue] at h
      split at h <;> cases h
    | logLevel | logFormat | logFile => cases h

theorem take_error : s.take t topic = .error e ↔ topic.check t = .error e := by
  rw [← verdict_take s t topic]
  cases s.take t topic <;> simp [Except.map]

/-- Where topics are taken up and one is refused, those before the first such topic are taken up, and that is all. -/
theorem refused_fillTopics {topics : List Topic} (h : Settings.fillTopics t topics s = (s', .error e)) :
    ∃ topic ∈ topics, topic.check t = .error e ∧
      Settings.fillTopics t (topics.takeWhile (· ≠ topic)) s = (s', .ok ()) := by
  induction topics generalizing s with
  | nil => cases h
  | cons first topics ih =>
    rw [Settings.fillTopics] at h
    cases hs : s.take t first with
    | error e₁ =>
      rw [hs] at h
      cases h
      exact ⟨first, List.mem_cons_self, take_error.1 hs, by simp [Settings.fillTopics]⟩
    | ok s₁ =>
      rw [hs] at h
      obtain ⟨topic, hin, hcheck, hrest⟩ := ih h
      have hne : first ≠ topic := by
        rintro rfl
        rw [take_error.2 hcheck] at hs
        cases hs
      refine ⟨topic, List.mem_cons_of_mem _ hin, hcheck, ?_⟩
      rw [List.takeWhile_cons_of_pos (by simpa using hne), Settings.fillTopics, hs]
      exact hrest

/-- What a table `t` that is refused leaves behind of settings `s`; `topic` is the first on which it is refused. -/
structure Refusal (s : Settings) (t : Table) (topic : Topic) (s' : Settings) (e : ValidationError) : Prop where
  checked : topic ∈ Topic.checked
  /-- The part of the table on this topic is refused by itself, by all settings and for the same reason. -/
  reason : ∀ r : Settings, r.fill (t.only [topic]) = (r, .error e)
  /-- The part of the table before this topic is accepted, and leads to the same settings. -/
  before : s.fill (t.only topic.before) = (s', .ok ())
  queue : topic = .queue → s' = s
  /-- Colour and log are as they were. -/
  color : s'.color = s.color ∧ s'.noColor = s.noColor
  log : s'.logLevel = s.logLevel ∧ s'.logFormat = s.logFormat ∧ s'.logFile = s.logFile

theorem refusal_of_fill (h : s.fill t = (s', .error e)) : ∃ topic, Refusal s t topic s' e := by
  obtain ⟨topic, -, hcheck, htaken⟩ := refused_fillTopics h
  have hin : topic ∈ Topic.checked := checked_of_refused hcheck
  have hbefore : s.fill (t.only topic.before) = (s', .ok ()) := by
    rw [fill_only, Topic.filter_before, ← Topic.before_eq hin]
    exact htaken
  have hgains := gains_fill hbefore
  have hkept : ∀ f : Field, f.topic ∉ topic.before → s'.value f = s.value f := by
    intro f hf
    rw [hgains.value, Field.offer, get?_only, if_neg hf, Option.bind_none, Option.or_none]
  have hlater : ∀ f : Field, f.topic ∉ Topic.checked → s'.value f = s.value f :=
    fun f hf => hkept f fun hb => hf (List.takeWhile_sublist _ |>.subset hb)
  refine ⟨topic, hin, fun r => ?_, hbefore, ?_, Gains.switches_of_value (hlater .color (by decide)), ?_⟩
  · have hsingle : Topic.all.filter (· ∈ [topic]) = [topic] := by
      cases topic <;> rfl
    rw [fill_only, hsingle, Settings.fillTopics, take_error.2 hcheck]
  · rintro rfl
    exact Gains.eq_of_value hgains.configFile fun f => hkept f List.not_mem_nil
  · exact ⟨hlater .logLevel (by decide), hlater .logFormat (by decide), hlater .logFile (by decide)⟩

end Refusal

/-! ## The same table again -/

section Repeated

variable (s : Settings) (t : Table)

/-- Whether a table is accepted does not depend on the settings. -/
theorem verdict_fill (r : Settings) : (r.fill t).2 = (s.fill t).2 :=
  (verdict_fillTopics r Topic.all).trans (verdict_fillTopics s Topic.all).symm

/-- The same table again gets the same verdict and changes nothing, be it accepted or refused. -/
theorem fill_fill : (s.fill t).1.fill t = s.fill t :=
  Prod.ext ((gains_fillTopics s Topic.all).again (gains_fillTopics _ Topic.all)) (verdict_fill s t _)

/-- No value that is there is altered, be the table accepted or refused. -/
theorem fill_keeps {f : Field} {x : f.Kind} (h : s.value f = some x) : (s.fill t).1.value f = some x := by
  have hgains := gains_fillTopics (t := t) s Topic.all
  rw [Settings.fill, hgains.value, h, Option.some_or]

end Repeated

/-! ## Files -/

section Files

variable {s : Settings} {files : Files} {named : Option String}

/-- The verdicts on a load of which nothing is taken up: there is no file to load, or the one that is named is missing,
or it cannot be read, or it holds no table. -/
def Untaken : Except ConfigError (Option String) → Prop
  | .ok none | .error (.notFound _) | .error (.read _ _) | .error (.parse _ _) => True
  | .ok (some _) | .error (.invalid _ _) => False

/-- The verdict on a file that holds a table, given that on the table. -/
def verdictAt (path : String) (verdict : Except ValidationError Unit) : Except ConfigError (Option String) :=
  (verdict.mapError (.invalid path)).map fun _ => some path

theorem not_untaken_verdictAt (path : String) (verdict : Except ValidationError Unit) :
    ¬ Untaken (verdictAt path verdict) := by
  cases verdict <;> exact id

/-- To load a file is to take nothing up, or to fill the settings from a table; which of them it is and what the table
is depends on the files alone. -/
theorem load_cases (files : Files) (named : Option String) :
    (∃ verdict, Untaken verdict ∧ ∀ s : Settings, s.load files named = (s, verdict)) ∨
      ∃ path t, ∀ s : Settings, s.load files named = ((s.fill t).1, verdictAt path (s.fill t).2) := by
  unfold Settings.load
  cases hchoose : files.choose named with
  | error e =>
    obtain ⟨path, rfl⟩ : ∃ path, e = .notFound path := by
      unfold Files.choose at hchoose
      split at hchoose
      · split at hchoose <;> cases hchoose
        exact ⟨_, rfl⟩
      · cases hchoose
    exact .inl ⟨.error (.notFound path), trivial, fun s => rfl⟩
  | ok chosen =>
    cases chosen with
    | none => exact .inl ⟨.ok none, trivial, fun s => rfl⟩
    | some path =>
      cases hread : files.readText path with
      | error f => exact .inl ⟨.error (.read path f), trivial, fun s => by simp only [hread]⟩
      | ok text =>
        cases hparse : Toml.readSettings text with
        | none =>
          refine .inl ⟨.error (.parse path "malformed document"), trivial, fun s => ?_⟩
          simp only [hread, Settings.fillText, hparse]
          rfl
        | some t =>
          refine .inr ⟨path, t, fun s => ?_⟩
          simp only [hread, Settings.fillText, hparse]
          rfl

theorem load_untaken (h : Untaken (s.load files named).2) : (s.load files named).1 = s := by
  obtain ⟨verdict, -, hload⟩ | ⟨path, t, hload⟩ := load_cases files named
  · rw [hload]
  · rw [hload] at h
    exact absurd h (not_untaken_verdictAt path _)

theorem load_load : (s.load files named).1.load files named = s.load files named := by
  obtain ⟨verdict, -, hload⟩ | ⟨path, t, hload⟩ := load_cases files named
  · simp only [hload]
  · simp only [hload, fill_fill]

end Files

/-- **Refused and repeated configurations.** A table that is refused leaves the settings as the part of it before the
offending topic does, which is accepted. Refused or not, a table alters no value that is there, and has the same verdict
and changes nothing if it is taken up again; so has a file that is loaded again. A file of which nothing is taken up
changes nothing at all. -/
theorem refused_and_repeated (s : Settings) (t : Table) (files : Files) (named : Option String) :
    (∀ s' e, s.fill t = (s', .error e) → ∃ topic, Refusal s t topic s' e) ∧
      ((s.fill t).1.configFile = s.configFile ∧ ∀ f x, s.value f = some x → (s.fill t).1.value f = some x) ∧
      (s.fill t).1.fill t = s.fill t ∧
      (Untaken (s.load files named).2 → (s.load files named).1 = s) ∧
      (s.load files named).1.load files named = s.load files named :=
  ⟨fun _ _ => refusal_of_fill, ⟨(gains_fillTopics s Topic.all).configFile, fun _ _ => fill_keeps s t⟩, fill_fill s t,
    load_untaken, load_load⟩

/-- A table that names the queue and asks for no producers. -/
def sampleRefused : Table :=
  [("color", .boolean true), ("items", .integer 8), ("producers", .integer 0),
    ("queue", .table [("name", .string "belt")]), ("work-ms", .integer (-1))]

/-- Settings with a number of items. -/
def sampleUnfilled : Settings := { items := some 3 }

/-- What the table leaves behind of them. -/
def sampleLeft : Settings := { name := some "belt", items := some 3 }

/-- Files with no configuration file among them, and no place where one could be that is not named. -/
def sampleFiles : Files := { tree := {}, defaultPath := none }

theorem sample_refused_and_repeated :
    sampleUnfilled.fill sampleRefused = (sampleLeft, .error .noProducers) ∧
      Refusal sampleUnfilled sampleRefused .producers sampleLeft .noProducers ∧ sampleLeft.value .items = some 3 ∧
      sampleLeft.fill sampleRefused = (sampleLeft, .error .noProducers) ∧
      sampleUnfilled.load sampleFiles none = (sampleUnfilled, .ok none) := by
  have hfill : sampleUnfilled.fill sampleRefused = (sampleLeft, .error .noProducers) := rfl
  obtain ⟨hrefusal, ⟨-, hkept⟩, hagain, huntaken, -⟩ :=
    refused_and_repeated sampleUnfilled sampleRefused sampleFiles none
  rw [hfill] at hagain hkept
  obtain ⟨topic, htopic⟩ := hrefusal sampleLeft _ hfill
  have hreason : (sampleUnfilled.fill (sampleRefused.only [topic])).2 = .error .noProducers := by rw [htopic.reason]
  obtain rfl : topic = .producers := by
    cases topic <;> first | rfl | cases hreason
  exact ⟨hfill, htopic, hkept .items 3 rfl, hagain, Prod.ext (huntaken trivial) rfl⟩

end Cli

end Conveyor
