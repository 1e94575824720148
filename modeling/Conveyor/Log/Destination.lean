import Conveyor.FileTree

/-!
# Where log lines go

A log goes to standard error unless a file is named. The word that stands for no file is recognised in any letter case.
A file gets its directories when the logger is set up, and comes into being with the first line.
-/

namespace Conveyor.Log

inductive Destination where
  | stderr
  | file (path : String)
deriving DecidableEq

namespace Destination

/-- Whether a path is the word that stands for no file. -/
def isNone (path : String) : Bool := path.toList.map Char.toLower = ['n', 'o', 'n', 'e']

/-- The destination that a setting asks for. -/
def ofSetting : Option String → Destination
  | none => .stderr
  | some path => if isNone path then .stderr else .file path

/-- Whether the last part of a path can be the name of a log file: it is no directory by its form, and what stands
before its last point is not empty. -/
def isFileName (path : String) : Bool :=
  match path.toList.reverse.takeWhile (· ≠ '/') with
  | [] | ['.'] | ['.', '.'] => false
  | name => name.dropWhile (· ≠ '.') ≠ ['.']

/-- Makes the directories of a destination, and tells whether it can be written to. -/
def prepare (t : FileTree) : Destination → FileTree × Bool
  | .stderr => (t, true)
  | .file path =>
    if isFileName path && !t.isDirectory path then
      let (t, place) := t.makeParents path
      (t, place.isSome)
    else (t, false)

/-- The tree after a line was written to a destination. -/
def touch (t : FileTree) : Destination → FileTree
  | .stderr => t
  | .file path => t.write path .empty

end Destination

/-- The lines of a text; a line feed at its end begins no other. -/
def linesOf (text : String) : List String :=
  let lines := text.splitOn "\n"
  if lines.getLast? = some "" then lines.dropLast else lines

/-- The lines on standard error. -/
def stderrLines (written : List (Destination × String)) : List String :=
  (written.filterMap fun w => if w.1 = .stderr then some w.2 else none).flatMap (·.splitOn "\n")

/-- The lines of the file at a path, if there is one. What was written replaces what was there before. -/
def fileLines (t : FileTree) (path : String) (written : List (Destination × String)) : Option (List String) :=
  let texts := written.filterMap fun
    | (.file p, text) => if t.place? p = t.place? path then some text else none
    | (.stderr, _) => none
  match texts, t.place? path, t.state path with
  | [], _, .regular content => (String.fromUTF8? content).map linesOf
  | texts@(_ :: _), some _, _ => some (texts.flatMap (·.splitOn "\n"))
  | _, _, _ => none

end Conveyor.Log
