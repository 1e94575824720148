import Conveyor.Cli.ConfigError
import Conveyor.Cli.Fill
import Conveyor.FileTree

/-!
# Configuration files

Settings are filled from the file that the command line names, or else from the file at the default path. A file that
is named has to be there; the one at the default path is read if it is there.
-/

namespace Conveyor.Cli

/-- The path of the configuration file that need not be named. The directory of a user's configuration is given by a
variable if its value is an absolute path, and lies in the home directory otherwise. -/
def defaultConfigPath (configHome home : Option String) : Option String :=
  let directory := (configHome.filter (·.startsWith "/")).or (home.map (· ++ "/.config"))
  directory.map (· ++ "/Pcqueue/pcqueue.toml")

/-- The files that a run can see. -/
structure Files where
  tree : FileTree
  /-- The path of the configuration file that need not be named. -/
  defaultPath : Option String

namespace Files

def present (files : Files) (path : String) : Bool :=
  match files.tree.state path with
  | .missing => false
  | _ => true

/-- The text of a file. -/
def readText (files : Files) (path : String) : Except ReadFailure String :=
  match files.tree.state path with
  | .missing => .error (.other "No such file or directory (os error 2)")
  | .directory => .error .isDirectory
  | .regular content =>
    match String.fromUTF8? content with
    | some text => .ok text
    | none => .error .notUtf8

/-- The path that is loaded: the named one, or the default one if there is a file. -/
def choose (files : Files) (named : Option String) : Except ConfigError (Option String) :=
  match named with
  | some path => if files.present path then .ok (some path) else .error (.notFound path)
  | none => .ok (files.defaultPath.filter files.present)

end Files

namespace Settings

/-- Fills settings from the text of the file at `path`. -/
def fillText (s : Settings) (path text : String) : Settings × Except ConfigError Unit :=
  match Toml.readSettings text with
  | none => (s, .error (.parse path "malformed document"))
  | some t =>
    let (s, verdict) := s.fill t
    (s, verdict.mapError (.invalid path))

/-- Fills settings from a configuration file, and tells which one was read. -/
def load (s : Settings) (files : Files) (named : Option String) : Settings × Except ConfigError (Option String) :=
  match files.choose named with
  | .error e => (s, .error e)
  | .ok none => (s, .ok none)
  | .ok (some path) =>
    match files.readText path with
    | .error f => (s, .error (.read path f))
    | .ok text =>
      let (s, verdict) := s.fillText path text
      (s, verdict.map fun _ => some path)

end Settings

end Conveyor.Cli
