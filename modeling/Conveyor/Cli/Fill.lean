import Conveyor.Cli.Settings
import Conveyor.Config.Section
import Conveyor.Log.Destination

/-!
# Filling settings from a table

A table of a configuration file gives values to settings that have none yet. Its topics are taken up in a fixed order;
the first that cannot be accepted ends the work, and what was taken up before it stays.

* `fillTopics_eq_ok`: the work ends without an error if every topic is accepted in turn.
* `take_of_get?_eq_none`: a topic that the table does not mention changes nothing.
-/

namespace Conveyor.Cli

open Toml

/-- What a configuration file can speak of at its top level. -/
inductive Topic where
  | queue
  | items
  | producers
  | workMs
  | failEvery
  | color
  | logLevel
  | logFormat
  | logFile
deriving DecidableEq

namespace Topic

/-- All topics in the order in which they are taken up. -/
def all : List Topic := [.queue, .items, .producers, .workMs, .failEvery, .color, .logLevel, .logFormat, .logFile]

def key : Topic → String
  | .queue => "queue"
  | .items => "items"
  | .producers => "producers"
  | .workMs => "work-ms"
  | .failEvery => "fail-every"
  | .color => "color"
  | .logLevel => "log-level"
  | .logFormat => "log-format"
  | .logFile => "log-file"

/-- The count that a value gives for a topic. -/
def count (topic : Topic) (v : Value) : Except ValidationError Nat :=
  match v.asInteger? with
  | some n => if 0 ≤ n then .ok n.toNat else .error (.notNonNegative topic.key)
  | none => .error (.notNonNegative topic.key)

end Topic

/-- Whether a text in a configuration file names a log file: neither a dash nor the word for no file does. -/
def namesLogFile (text : String) : Bool := !Log.Destination.isNone text && text ≠ "-"

namespace Settings

/-- The settings of the queue that a section mentions, for settings that have no value yet. -/
def fillQueue (s : Settings) (mentioned : Table) (q : QueueConfig) : Settings :=
  let given {α : Type} (setting : Setting) (x : α) : Option α :=
    if mentioned.contains setting.key then some x else none
  { s with
    name := s.name.or (given .name q.name)
    workers := s.workers.or (given .workers q.workers)
    capacity := s.capacity.or (given .capacity q.boundedCapacity) }

/-- Takes up what a queue section says. The whole section has to describe a queue that can be built; the settings that
it does not mention count with their defaults then. -/
def takeQueue (s : Settings) (v : Value) : Except ValidationError Settings :=
  match QueueConfig.ofSection v with
  | .error fault => .error (.badSection fault.message)
  | .ok q =>
    match q.validate with
    | .error e => .error e
    | .ok _ => .ok ((v.asTable?.map fun t => s.fillQueue t q).getD s)

/-- Takes up the value that a table gives for a topic. -/
def takeValue (s : Settings) (topic : Topic) (v : Value) : Except ValidationError Settings :=
  match topic with
  | .queue => s.takeQueue v
  | .items => (topic.count v).map fun n => { s with items := s.items.or (some n) }
  | .producers =>
    match topic.count v with
    | .error e => .error e
    | .ok 0 => .error .noProducers
    | .ok n => .ok { s with producers := s.producers.or (some n) }
  | .workMs => (topic.count v).map fun n => { s with workMs := s.workMs.or (some n) }
  | .failEvery => (topic.count v).map fun n => { s with failEvery := s.failEvery.or (some n) }
  | .color =>
    match v.asBoolean? with
    | some b => .ok (if s.color || s.noColor then s else { s with color := b, noColor := !b })
    | none => .ok s
  | .logLevel => .ok { s with logLevel := s.logLevel.or v.asString? }
  | .logFormat => .ok { s with logFormat := s.logFormat.or v.asString? }
  | .logFile => .ok { s with logFile := s.logFile.or (v.asString?.filter namesLogFile) }

/-- Takes up what a table says on a topic. -/
def take (s : Settings) (t : Table) (topic : Topic) : Except ValidationError Settings :=
  match t.get? topic.key with
  | none => .ok s
  | some v => s.takeValue topic v

/-- Takes up topics in turn, up to the first that is refused. -/
def fillTopics (t : Table) : List Topic → Settings → Settings × Except ValidationError Unit
  | [], s => (s, .ok ())
  | topic :: rest, s =>
    match s.take t topic with
    | .error e => (s, .error e)
    | .ok s => fillTopics t rest s

/-- Fills the settings that have no value yet from a table. -/
def fill (s : Settings) (t : Table) : Settings × Except ValidationError Unit := fillTopics t Topic.all s

/-- A topic that the table does not mention changes nothing. -/
theorem take_of_get?_eq_none {s : Settings} {t : Table} {topic : Topic} (h : t.get? topic.key = none) :
    s.take t topic = .ok s := by
  simp [take, h]

/-- The work ends without an error exactly if every topic is accepted in turn. -/
theorem fillTopics_eq_ok {t : Table} {topics : List Topic} {s s' : Settings} :
    fillTopics t topics s = (s', .ok ()) ↔ topics.foldlM (fun s topic => s.take t topic) s = .ok s' := by
  induction topics generalizing s with
  | nil => simp [fillTopics, pure, Except.pure]
  | cons topic rest ih =>
    simp only [fillTopics, List.foldlM_cons]
    cases h : s.take t topic with
    | error e => simp [bind, Except.bind]
    | ok s1 => simpa [bind, Except.bind] using ih

end Settings

end Conveyor.Cli
