import Conveyor.Log.Destination
import Conveyor.Log.Filter
import Conveyor.Log.Format

/-!
# The logger

A program has one logger. It is installed once, with a filter, a format and a destination; later only the filter can
change. Before that nothing is logged.

* `emit_eq_none`: when a record is not logged.
-/

namespace Conveyor.Log

/-- What an installed logger does with the records that are let through. -/
structure Sink where
  filter : Filter
  format : Format
  colour : Bool
  destination : Destination
deriving DecidableEq

structure Logger where
  sink : Option Sink := none
  /-- Records below this level are not even looked at. -/
  threshold : Threshold := none
deriving DecidableEq

/-- Why logging could not be set up or changed. -/
inductive SetupError where
  | badFilter (text : String)
  /-- No file can be written at the path. -/
  | badFile (path : String)
  | alreadyInstalled
  | notInstalled
deriving DecidableEq

def SetupError.message : SetupError → String
  | .badFilter _ => "Parsing the configured logspec failed"
  | .badFile _ => "Log file cannot be written because the specified path is not a regular file"
  | .alreadyInstalled => "Logger initialization failed"
  | .notInstalled => "Logger handle not initialised. Call init_logging first."

namespace Logger

/-- What the program asks of its logger. -/
structure Request where
  level : Option String := none
  format : Option String := none
  file : Option String := none
  /-- Whether lines are coloured. -/
  colour : Bool := false

/-- Installs the logger; the directories of a log file are made. A request that comes too late still changes which
records are looked at. -/
def install (l : Logger) (t : FileTree) (q : Request) : Logger × FileTree × Except SetupError Unit :=
  let level := q.level.getD "info"
  match Filter.parse? level with
  | none => (l, t, .error (.badFilter level))
  | some filter =>
    let destination := Destination.ofSetting q.file
    match destination.prepare t with
    | (t, false) => (l, t, .error (.badFile (q.file.getD "")))
    | (t, true) =>
      let l := { l with threshold := filter.threshold }
      match l.sink with
      | some _ => (l, t, .error .alreadyInstalled)
      | none =>
        ({ l with sink := some ⟨filter, Format.ofSetting q.format, q.colour, destination⟩ }, t, .ok ())

/-- Changes the filter. -/
def reconfigure (l : Logger) (level : String) : Logger × Except SetupError Unit :=
  match l.sink with
  | none => (l, .error .notInstalled)
  | some s =>
    match Filter.parse? level with
    | none => (l, .error (.badFilter level))
    | some filter => ({ sink := some { s with filter := filter }, threshold := filter.threshold }, .ok ())

/-- Where a record goes and the text that is written, if it is logged. -/
def emit (l : Logger) (stamp : Stamp) (r : Record) : Option (Destination × String) :=
  match l.sink with
  | none => none
  | some s =>
    if l.threshold.passes r.level && s.filter.enabled r.level r.target && s.filter.accepts r.message then
      some (s.destination, s.format.render s.colour stamp r)
    else none

/-- A record is not logged without a logger, nor below its threshold. -/
theorem emit_eq_none {l : Logger} {r : Record} (h : l.sink = none ∨ l.threshold.passes r.level = false)
    (stamp : Stamp) : l.emit stamp r = none := by
  unfold emit
  split
  · rfl
  · rename_i s hs
    rcases h with h | h
    · simp [h] at hs
    · simp [h]

end Logger

end Conveyor.Log
