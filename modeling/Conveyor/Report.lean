import Conveyor.Error
import Conveyor.Log.Notice

/-!
# Reporting errors

Each type of error says whether the user can do something about it and, if so, in which words. Such an error is
reported by those words, any other by the operation that failed; the details go to the debug level.
-/

namespace Conveyor

/-- An error that can be reported to the user or to the log. -/
class Reportable (ε : Type) where
  /-- The full text. -/
  display : ε → String
  /-- The text with the structure of the value shown. -/
  detail : ε → String
  /-- Whether the user can do something about the error. -/
  actionable : ε → Bool
  /-- The words for the user. -/
  userMessage : ε → Option String

namespace Report

variable {ε : Type} [Reportable ε]

/-- The words for the user if the error is for them to act on. -/
def actionMessage? (e : ε) : Option String :=
  if Reportable.actionable e then Reportable.userMessage e else none

/-- The line shown for an error that ends the program. -/
def userFacing (e : ε) (context : String) : String :=
  match actionMessage? e with
  | some m => "Error: " ++ m
  | none => "Error: " ++ context ++ " failed (" ++ Reportable.display e ++ ")"

/-- What is logged for an error that ends the program. -/
def notices (e : ε) (context : String) : List Log.Notice :=
  let headline : Log.Notice := match actionMessage? e with
    | some m => .fatal m true
    | none => .fatal context false
  [headline, .errorText (Reportable.display e), .errorDetail (Reportable.detail e)]

end Report

/-- The text of a value with one named text field. -/
def Text.fieldText (type field value : String) : String :=
  type ++ " \x7b " ++ field ++ ": " ++ Text.quote value ++ " \x7d"

instance : Reportable ValidationError where
  display := ValidationError.message
  detail e := Text.fieldText "ValidationError" "message" e.message
  actionable _ := true
  userMessage e := some e.message

instance : Reportable QueueError where
  display := QueueError.message
  detail e := match e.text? with
    | some m => Text.fieldText e.kind "message" m
    | none => e.kind
  actionable
    | .invalidArgument _ => true
    | _ => false
  userMessage
    | .invalidArgument m => some m
    | _ => none

end Conveyor
