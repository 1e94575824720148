/-!
# Log levels

Levels in decreasing order of weight. A filter lets through a level and all that weigh more, or nothing.
-/

namespace Conveyor.Log

inductive Level where
  | error
  | warn
  | info
  | debug
  | trace
deriving DecidableEq

namespace Level

/-- How much detail a level stands for: the fewer, the weightier. -/
def detail : Level → Nat
  | .error => 1
  | .warn => 2
  | .info => 3
  | .debug => 4
  | .trace => 5

def name : Level → String
  | .error => "ERROR"
  | .warn => "WARN"
  | .info => "INFO"
  | .debug => "DEBUG"
  | .trace => "TRACE"

/-- The three letters that stand for the level in a log line. -/
def abbreviation : Level → String
  | .error => "ERR"
  | .warn => "WRN"
  | .info => "INF"
  | .debug => "DBG"
  | .trace => "TRC"

end Level

/-- The most detailed level that is let through; `none` lets nothing through. -/
abbrev Threshold := Option Level

namespace Threshold

def passes (t : Threshold) (l : Level) : Bool :=
  match t with
  | none => false
  | some m => l.detail ≤ m.detail

def name : Threshold → String
  | none => "OFF"
  | some l => l.name

/-- The more permissive of two thresholds. -/
def max (s t : Threshold) : Threshold :=
  match s, t with
  | none, t => t
  | s, none => s
  | some a, some b => if a.detail ≤ b.detail then some b else some a

end Threshold

end Conveyor.Log
