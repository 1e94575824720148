import Conveyor.Cli.ConfigError
import Conveyor.Notification.Hub

/-!
# What is reported of an error

An error that the user can do something about should have words for the user, and no other error should. Where that is
so, the line on standard error and the first line of the log both show those words, and show the operation that failed
for any other error (`honoured`). A report asks for both, so an error that can be acted on and has no words is reported
like one that nobody can do anything about (`showsOperation`).

* `reports_honoured`: all errors are reported as they should be but for two kinds, a configuration file that is missing
  and one that is malformed: these can be acted on and have no words.
-/

namespace Conveyor

namespace Report

section Generic

variable {ε : Type} [Reportable ε] {e : ε}

/-- The level and the text of the first line that is logged. -/
def headline (e : ε) (context : String) : Option (Log.Level × String) :=
  (notices e context).head?.map fun n => (n.level, n.text)

/-- A report that shows the words of the error for the user. -/
structure ShowsWords (e : ε) (context words : String) : Prop where
  own : Reportable.userMessage e = some words
  line : userFacing e context = "Error: " ++ words
  head : headline e context = some (.error, "FATAL: " ++ words)

/-- A report that shows the operation that failed. -/
structure ShowsOperation (e : ε) (context : String) : Prop where
  line : userFacing e context = "Error: " ++ context ++ " failed (" ++ Reportable.display e ++ ")"
  head : headline e context = some (.error, "FATAL: " ++ context)

/-- The error has words for the user exactly if the user can do something about it, and its reports show them, or the
operation that failed. -/
structure Honoured (e : ε) : Prop where
  words : (Reportable.userMessage e).isSome = true ↔ Reportable.actionable e = true
  actionable : Reportable.actionable e = true → ∀ context, ∃ words, ShowsWords e context words
  other : Reportable.actionable e = false → ∀ context, ShowsOperation e context

theorem showsWords {words : String} (ha : Reportable.actionable e = true) (hw : Reportable.userMessage e = some words)
    (context : String) : ShowsWords e context words := by
  have hshown : actionMessage? e = some words := by rw [actionMessage?, if_pos ha, hw]
  exact ⟨hw, by rw [userFacing, hshown], by rw [headline, notices, hshown]; rfl⟩

/-- Either answer alone keeps the words of an error from being shown. -/
theorem showsOperation (h : Reportable.actionable e = true → Reportable.userMessage e = none) (context : String) :
    ShowsOperation e context := by
  have hshown : actionMessage? e = none := by
    rw [actionMessage?]
    split
    case isTrue ha => exact h ha
    case isFalse => rfl
  exact ⟨by rw [userFacing, hshown], by rw [headline, notices, hshown]; rfl⟩

/-- The two renderers do their part for every type of error. -/
theorem honoured (h : (Reportable.userMessage e).isSome = true ↔ Reportable.actionable e = true) : Honoured e where
  words := h
  actionable ha context := by
    obtain ⟨words, hw⟩ := Option.isSome_iff_exists.1 (h.2 ha)
    exact ⟨words, showsWords ha hw context⟩
  other hn context := showsOperation (fun ha => by rw [hn] at ha; cases ha) context

end Generic

end Report

/-- A configuration file is missing, or it is malformed. -/
def Cli.ConfigError.isWordless : Cli.ConfigError → Bool
  | .notFound _ | .parse .. => true
  | .read .. | .invalid .. => false

namespace Report

theorem honoured_queue (e : QueueError) : Honoured e := by
  refine honoured ?_
  cases e <;> simp [Reportable.userMessage, Reportable.actionable]

theorem honoured_validation (e : ValidationError) : Honoured e :=
  honoured ⟨fun _ => rfl, fun _ => rfl⟩

theorem honoured_notification (e : NotificationError) : Honoured e :=
  honoured ⟨nofun, nofun⟩

theorem actionable_of_isWordless {e : Cli.ConfigError} (h : e.isWordless = true) :
    Reportable.actionable e = true ∧ Reportable.userMessage e = none := by
  cases e with
  | notFound | parse => exact ⟨rfl, rfl⟩
  | read | invalid => cases h

/-- An error about a configuration file is reported as it should be unless it can be acted on without words. -/
theorem honoured_config (e : Cli.ConfigError) : Honoured e ↔ e.isWordless = false := by
  constructor
  · intro h
    refine Bool.eq_false_iff.2 fun hwordless => ?_
    obtain ⟨ha, hw⟩ := actionable_of_isWordless hwordless
    have hsome := h.words.2 ha
    rw [hw] at hsome
    cases hsome
  · intro h
    refine honoured ?_
    cases e with
    | notFound | parse => cases h
    | read | invalid => simp [Reportable.userMessage, Reportable.actionable]

/-- **How errors are reported.** Every error of a queue, of a check and of a publication has words for the user exactly
if the user can do something about it, and a report shows these, or else the operation. So has an error about a
configuration file, unless the file is missing or malformed: this the user can do something about, but there are no
words for it, and its reports show the operation. -/
theorem reports_honoured (queue : QueueError) (check : ValidationError) (publication : NotificationError)
    (config : Cli.ConfigError) :
    Honoured queue ∧ Honoured check ∧ Honoured publication ∧ (Honoured config ↔ config.isWordless = false) ∧
      (config.isWordless = true → Reportable.actionable config = true ∧ Reportable.userMessage config = none ∧
        ∀ context, ShowsOperation config context) := by
  refine ⟨honoured_queue queue, honoured_validation check, honoured_notification publication, honoured_config config,
    fun h => ?_⟩
  obtain ⟨ha, hw⟩ := actionable_of_isWordless h
  exact ⟨ha, hw, showsOperation fun _ => hw⟩

theorem sample_reports_honoured :
    Honoured ValidationError.noProducers ∧ Honoured (Cli.ConfigError.invalid "a.toml" .noProducers) ∧
      ShowsOperation (Cli.ConfigError.parse "a.toml" "malformed document") "Loading configuration" := by
  have hreports := reports_honoured .addingCompleted .noProducers (.publishFailed "disposed" ["log"])
  obtain ⟨-, hcheck, -, hinvalid, -⟩ := hreports (.invalid "a.toml" .noProducers)
  obtain ⟨-, -, -, -, hparse⟩ := hreports (.parse "a.toml" "malformed document")
  exact ⟨hcheck, hinvalid.2 rfl, (hparse rfl).2.2 "Loading configuration"⟩

/-- A missing file that was named: the user could do something about it, and reads what operation failed. -/
theorem missing_file_wordless :
    Reportable.actionable (Cli.ConfigError.notFound "a.toml") = true ∧
      ¬ (Reportable.userMessage (Cli.ConfigError.notFound "a.toml")).isSome ∧
      userFacing (Cli.ConfigError.notFound "a.toml") "Loading configuration" =
        "Error: Loading configuration failed (The specified configuration file does not exist: a.toml)" ∧
      headline (Cli.ConfigError.notFound "a.toml") "Loading configuration" =
        some (.error, "FATAL: Loading configuration") :=
  ⟨rfl, by decide, by decide, by decide⟩

end Report

end Conveyor
