import Conveyor.Duration
import Conveyor.Queue.Stats
import Conveyor.Text.Style

/-!
# Run summary

What the program prints when a run has ended: a title line with the outcome, one row for each counter and one for the
elapsed time. The labels are padded to one width, so that all values begin in the same column.
-/

namespace Conveyor.Cli

open Text

/-- How a run ended. -/
inductive Outcome where
  /-- Every item that was produced reached its handler. -/
  | drained
  /-- The queue was disposed before it drained. -/
  | disposed
  /-- A signal ended the run. -/
  | interrupted
deriving DecidableEq

namespace Outcome

def exitCode : Outcome → Nat
  | .drained => 0
  | .disposed => 1
  | .interrupted => 130

def label : Outcome → String
  | .drained => "drained"
  | .disposed => "disposed"
  | .interrupted => "interrupted"

def style : Outcome → Style
  | .drained => { bold := true, colour := some .green }
  | .disposed => { bold := true, colour := some .yellow }
  | .interrupted => { bold := true, colour := some .red }

end Outcome

namespace Summary

/-- The width of a label. -/
def labelWidth : Nat := 10

def padded (label : String) : String :=
  label ++ "".pushn ' ' (labelWidth - label.length)

/-- The counters in the order of the rows. -/
def counterRows : List (String × Queue.Counter) :=
  [("enqueued", .enqueued), ("processed", .processed), ("failed", .failed), ("rejected", .rejected),
    ("abandoned", .abandoned)]

/-- All rows: a label and its value. -/
def rows (stats : Queue.Stats) (elapsed : String) : List (String × String) :=
  counterRows.map (fun r => (r.1, toString (stats.toCounters.get r.2))) ++ [("elapsed", elapsed)]

/-- The lines of a summary whose labels go through `label`, whose title through `title`, whose outcome through `tag`. -/
def lines (title tag label : String → String) (name : String) (stats : Queue.Stats) (outcome : Outcome)
    (elapsed : String) : List String :=
  (title ("Queue '" ++ name ++ "'") ++ " " ++ tag outcome.label) ::
    (rows stats elapsed).map fun r => "  " ++ label (padded r.1) ++ " " ++ r.2

/-- The lines with styles if `colour` asks for them; `enabled` is false where no style takes effect. -/
def styledLines (colour enabled : Bool) (name : String) (stats : Queue.Stats) (outcome : Outcome) (elapsed : String) :
    List String :=
  let apply (s : Style) := s.apply (colour && enabled)
  lines (apply { colour := some .cyan }) (apply outcome.style) (apply { colour := some .blue }) name stats outcome
    elapsed

/-- The text of a summary. -/
def format (colour enabled : Bool) (name : String) (stats : Queue.Stats) (outcome : Outcome) (elapsed : Duration) :
    String :=
  String.join ((styledLines colour enabled name stats outcome elapsed.text).map (· ++ "\n"))

end Summary

end Conveyor.Cli
