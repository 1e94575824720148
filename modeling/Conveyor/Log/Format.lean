import Conveyor.Log.Level
import Conveyor.Log.Stamp
import Conveyor.Text.Json
import Conveyor.Text.Style

/-!
# Log lines

The three forms of a log line. The short form has the time, the level and the message; the extended form adds the place
in the program and the thread; the third form is a JSON object on one line. The first two can be coloured.
-/

namespace Conveyor.Log

open Text

/-- What is known of something that was logged. -/
structure Record where
  level : Level
  target : String
  line : Option Nat := none
  message : String
  /-- The name of the thread, if it has one. -/
  thread : Option String := some "main"

inductive Format where
  | short
  | extended
  | json
deriving DecidableEq

/-- The form that a setting asks for; an unknown word asks for the short one. -/
def Format.ofSetting (setting : Option String) : Format :=
  if setting = some "json" then .json
  else if setting = some "ext" then .extended
  else .short

/-- How a level is coloured. -/
def Level.style : Level → Style
  | .error => { bold := true, colour := some .red }
  | .warn => { colour := some .yellow }
  | .info => { colour := some .green }
  | .debug => { colour := some .blue }
  | .trace => { colour := some .magenta }

namespace Record

/-- Characters with a slash for each pair of colons, from left to right. -/
def slashes : List Char → List Char
  | ':' :: ':' :: cs => '/' :: slashes cs
  | c :: cs => c :: slashes cs
  | [] => []

/-- The beginning of the targets that belong to the program itself. -/
def ownTarget : String := "pcqueue::"

/-- The target as a path; one of the program's own is the path of a file. -/
def path (target : String) : String :=
  let cs := target.toList
  if ownTarget.toList.isPrefixOf cs then String.ofList (slashes (cs.drop ownTarget.length)) ++ ".rs"
  else String.ofList (slashes cs)

/-- The path of a target, and the line if there is one. -/
def location (target : String) : Option Nat → String
  | none => path target
  | some n => path target ++ ":" ++ toString n

def threadName (r : Record) : String := r.thread.getD "<unnamed>"

/-- The entries of the JSON form, in the order of their keys. -/
def entries (r : Record) (stamp : String) : List (String × String) :=
  [("level", r.level.abbreviation), ("message", r.message), ("target", location r.target r.line),
    ("thread", r.threadName), ("timestamp", stamp)]

/-- The JSON form. -/
def json (r : Record) (stamp : String) : String :=
  "\x7b" ++ ",".intercalate ((r.entries stamp).map fun e => jsonQuote e.1 ++ ":" ++ jsonQuote e.2) ++ "\x7d"

/-- The short form, with `paint` for the styles. -/
def short (paint : Style → String → String) (r : Record) (stamp : String) : String :=
  paint { dimmed := true } stamp ++ " " ++ paint r.level.style r.level.abbreviation ++ " " ++ r.message

/-- The extended form, with `paint` for the styles. -/
def extended (paint : Style → String → String) (r : Record) (stamp : String) : String :=
  short paint r stamp ++ " (" ++ paint { dimmed := true } (location r.target r.line) ++ ") [" ++
    paint { dimmed := true } r.threadName ++ "]"

end Record

/-- The line of a record. -/
def Format.render (f : Format) (colour : Bool) (stamp : Stamp) (r : Record) : String :=
  let paint (s : Style) (text : String) : String := s.apply colour text
  match f with
  | .short => r.short paint stamp.plain
  | .extended => r.extended paint stamp.plain
  | .json => r.json (stamp.compact ++ "Z")

end Conveyor.Log
