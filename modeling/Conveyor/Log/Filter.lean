import Conveyor.Log.Level
import Conveyor.Pattern.Reading

/-!
# Log filters

A filter says for each target down to which level its records are let through. It is written as a list of rules with
commas between them: a level alone is for all targets, `target=level` is for the targets that begin so, and a target
alone lets everything through. Of the rules that fit a target the one with the longest beginning counts. A slash
separates the rules from a pattern that has to occur in a message.
-/

namespace Conveyor.Log

/-- What is let through for the targets that begin with a text. -/
structure Rule where
  /-- The beginning; none fits every target. -/
  beginning : Option String
  threshold : Threshold
deriving DecidableEq

namespace Rule

def size (r : Rule) : Nat := (r.beginning.map String.utf8ByteSize).getD 0

def fits (r : Rule) (target : String) : Bool :=
  match r.beginning with
  | none => true
  | some b => b.toList.isPrefixOf target.toList

end Rule

structure Filter where
  /-- The rules, those with longer beginnings first. -/
  rules : List Rule
  /-- What has to occur in a message. -/
  required : Option Pattern := none
deriving DecidableEq

/-- The threshold of a name, in any letter case. -/
def Threshold.ofName? (name : List Char) : Option Threshold :=
  let names : List (String × Threshold) :=
    [("off", none), ("error", some .error), ("warn", some .warn), ("info", some .info), ("debug", some .debug),
      ("trace", some .trace)]
  names.lookup (String.ofList (name.map Char.toLower))

namespace Filter

/-- Reads one rule; blanks around its parts do not count, and there are none inside a target. -/
def readRule (cs : List Char) : Option Rule :=
  match ((String.ofList cs).splitOn "=").map fun part => Text.trim part.toList with
  | [target] =>
    if target.any Text.isBlank then none
    else
      match Threshold.ofName? target with
      | some t => some ⟨none, t⟩
      | none => some ⟨some (String.ofList target), some .trace⟩
  | [target, []] => if target.any Text.isBlank then none else some ⟨some (String.ofList target), some .trace⟩
  | [target, level] =>
    if target.any Text.isBlank then none
    else (Threshold.ofName? level).map fun t => ⟨some (String.ofList target), t⟩
  | _ => none

/-- Reads rules with commas between them; blank parts are passed over. -/
def readRules (text : String) : Option (List Rule) :=
  (((text.splitOn ",").map fun part => Text.trim part.toList).filter (· ≠ [])).mapM readRule

/-- Rules in the order in which they are asked. -/
def order (rules : List Rule) : List Rule := rules.mergeSort fun a b => b.size ≤ a.size

/-- The filter that a text describes. -/
def parse? (text : String) : Option Filter :=
  match text.splitOn "/" with
  | [rules] => (readRules rules).map fun rs => { rules := order rs }
  | [rules, required] =>
    match readRules rules, Pattern.parse? required with
    | some rs, some p => some { rules := order rs, required := some p }
    | _, _ => none
  | _ => none

/-- Whether a record of a level is let through for a target. -/
def enabled (f : Filter) (level : Level) (target : String) : Bool :=
  ((f.rules.find? (·.fits target)).map fun r => r.threshold.passes level).getD false

/-- Whether what has to occur in a message does. -/
def accepts (f : Filter) (message : String) : Bool := f.required.all (·.occurs message)

/-- The most detailed level that is let through for any target. -/
def threshold (f : Filter) : Threshold := f.rules.foldl (fun t r => t.max r.threshold) none

end Filter

end Conveyor.Log
