import Conveyor.Report

/-!
# Configuration file errors

What can go wrong between the path of a configuration file and the options that it sets.
-/

namespace Conveyor.Cli

/-- Why a file could not be read as text. -/
inductive ReadFailure where
  | isDirectory
  | notUtf8
  | other (message : String)
deriving DecidableEq

namespace ReadFailure

def message : ReadFailure → String
  | .isDirectory => "Is a directory (os error 21)"
  | .notUtf8 => "stream did not contain valid UTF-8"
  | .other m => m

def detail : ReadFailure → String
  | .isDirectory => "Os \x7b code: 21, kind: IsADirectory, message: \"Is a directory\" \x7d"
  | .notUtf8 => "Error \x7b kind: InvalidData, message: \"stream did not contain valid UTF-8\" \x7d"
  | .other m => "Custom \x7b kind: Other, error: " ++ Text.quote m ++ " \x7d"

end ReadFailure

inductive ConfigError where
  | notFound (path : String)
  | read (path : String) (failure : ReadFailure)
  | parse (path : String) (reason : String)
  | invalid (path : String) (error : ValidationError)
deriving DecidableEq

namespace ConfigError

def message : ConfigError → String
  | .notFound path => s!"The specified configuration file does not exist: {path}"
  | .read path f => s!"Error reading configuration file {path}: {f.message}"
  | .parse path reason => s!"Error parsing configuration file {path}: {reason}"
  | .invalid path e => s!"Error in configuration file {path}: {e.message}"

/-- The text of the error that lies behind this one. -/
def source? : ConfigError → Option String
  | .notFound _ => none
  | .read _ f => some f.message
  | .parse _ reason => some reason
  | .invalid _ e => some e.message

/-- The name of the kind of error. -/
def kind : ConfigError → String
  | .notFound _ => "NotFound"
  | .read .. => "Read"
  | .parse .. => "Parse"
  | .invalid .. => "Invalid"

def path : ConfigError → String
  | .notFound p | .read p _ | .parse p _ | .invalid p _ => p

end ConfigError

instance : Reportable ConfigError where
  display := ConfigError.message
  detail e :=
    let source := match e with
      | .notFound _ => ""
      | .read _ f => ", source: " ++ f.detail
      | .parse _ reason => ", source: " ++ Text.fieldText "TomlError" "message" reason
      | .invalid _ v => ", source: " ++ Reportable.detail v
    e.kind ++ " \x7b path: " ++ Text.quote e.path ++ source ++ " \x7d"
  actionable
    | .read .. => false
    | _ => true
  userMessage
    | .invalid _ e => some e.message
    | _ => none

end Conveyor.Cli
