import Conveyor.Cli.Program
import Std.Time.DateTime.Timestamp

/-!
# The command line

Looks at the files and the environment that the program needs to know of, lets the time go by that the work takes, and
writes what the program has to say.
-/

namespace Conveyor.Main

open Cli

/-- What stands at a path. -/
def look (path : String) : IO FileState := do
  let place := System.mkFilePath [path]
  if ← place.isDir then return .directory
  if ← place.pathExists then return .regular (← IO.FS.readBinFile place)
  return .missing

/-- The beginnings of a path that end before a slash, and the path itself, shortest first. -/
def beginnings (path : String) : List String :=
  let parts := path.splitOn "/"
  ((List.range parts.length).map fun n => "/".intercalate (parts.take (n + 1))).filter (· ≠ "")

/-- What stands at the given paths and on the way there; nothing is known of any other. -/
def lookAll (defaultPath : Option String) (paths : List String) : IO Files := do
  let start : FileTree := { root := (← IO.currentDir).toString }
  let tree ← (paths.flatMap beginnings).foldlM (fun t path => return t.put (t.placeOf path) (← look path)) start
  return { tree, defaultPath }

/-- The number of milliseconds since the beginning of 1970. -/
def millis : IO Nat := do
  let now ← Std.Time.Timestamp.now
  return now.toNanosecondsSinceUnixEpoch.val.toNat / 1000000

/-- Writes the lines of a log file. -/
def writeLog (path : String) (lines : List String) : IO Unit := do
  let place := System.mkFilePath [path]
  if let some directory := place.parent then IO.FS.createDirAll directory
  IO.FS.writeFile place (String.join (lines.map (· ++ "\n")))

/-- The log files that lines go to. -/
def logFiles (written : List (Log.Destination × String)) : List String :=
  (written.filterMap fun w => match w.1 with
    | .file path => some path
    | .stderr => none).eraseDups

/-- Everything that the program does. -/
def run (arguments : List String) : IO UInt32 := do
  let defaultPath := defaultConfigPath (← IO.getEnv "XDG_CONFIG_HOME") (← IO.getEnv "HOME")
  let paths := Program.configPaths defaultPath arguments
  let config ← lookAll defaultPath paths
  let settings := Program.settings? config arguments
  let files ← lookAll defaultPath (paths ++ (settings.bind (·.logFile)).toList)
  let environment : Environment :=
    { clicolorForce := ← IO.getEnv "CLICOLOR_FORCE"
      noColor := ← IO.getEnv "NO_COLOR"
      clicolor := ← IO.getEnv "CLICOLOR"
      terminal := ← (← IO.getStdout).isTty }
  let stamp := Log.Stamp.ofMillis (← millis)
  let started ← IO.monoNanosNow
  IO.sleep (Program.busyTime files arguments).toUInt32
  let nanos := (← IO.monoNanosNow) - started
  let transcript := Program.run { files, environment, stamp, elapsed := Duration.text ⟨0, nanos⟩ } arguments
  for line in transcript.output do IO.println line
  for (destination, line) in transcript.written do
    if destination = .stderr then IO.eprintln line
  for path in logFiles transcript.written do
    writeLog path ((transcript.written.filter (·.1 = .file path)).map (·.2))
  return transcript.exitCode.toUInt32

end Conveyor.Main

def main (arguments : List String) : IO UInt32 := Conveyor.Main.run arguments
