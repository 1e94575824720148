import Conveyor.Cli.CommandLine
import Conveyor.Cli.ConfigFile
import Conveyor.Cli.Course
import Conveyor.Cli.Environment
import Conveyor.Log.Logger
import Conveyor.Queue.Launch

/-!
# The program

From the arguments to everything that is written and the exit code. What only the clock can tell, the texts of the time
of day and of the time that has gone by, is given.
-/

namespace Conveyor.Cli

open Queue

/-- What the program finds around it. -/
structure World where
  files : Files
  environment : Environment := {}
  stamp : Log.Stamp
  /-- The text of the time that a job takes. -/
  elapsed : String
  /-- How many signals arrive while a job is at work. -/
  signals : Nat := 0
  spawning : Spawning := fun _ => none

/-- What the program did. -/
structure Transcript where
  exitCode : Nat
  /-- The lines on standard output. -/
  output : List String := []
  /-- The lines on standard error and in log files, in the order of time. -/
  written : List (Log.Destination × String) := []
  /-- The files and directories around it, as they were before the first line. -/
  tree : FileTree := {}

namespace Program

def name : String := "pcqueue"

def version : String := "0.1.0"

/-- The exit code after an error that is found before the work begins. -/
def configErrorCode : Nat := 1

/-- The exit code after a panic of the main task. -/
def panicCode : Nat := 101

/-- One line for each flag. -/
def help : List String :=
  ("Usage: " ++ name ++ " [OPTIONS]") :: "" :: "Options:" ::
    Flag.all.map fun (flag, long, letter) =>
      "  " ++ (match letter with | some c => "-" ++ c.toString ++ ", " | none => "    ") ++ "--" ++ long ++
        (match flag with | .option _ => " <VALUE>" | .switch _ => "")

/-- What is said of a command line that describes no run. -/
def complaint : UsageError → String
  | .unknown argument => "unexpected argument '" ++ argument ++ "' found"
  | .missingValue o => "a value is required for '--" ++ Flag.name (.option o) ++ "' but none was supplied"
  | .notOffered o value => "invalid value '" ++ value ++ "' for '--" ++ Flag.name (.option o) ++ "'"
  | .badValue o value reason => "invalid value '" ++ value ++ "' for '--" ++ Flag.name (.option o) ++ "': " ++ reason
  | .repeated flag => "the argument '--" ++ flag.name ++ "' cannot be used multiple times"
  | .contradiction => "the argument '--color' cannot be used with '--no-color'"
  | .valueNotTaken s => "unexpected value for '--" ++ Flag.name (.switch s) ++ "' found"
  | .helpRequested | .versionRequested => ""

/-- What the program does about a command line that describes no run. -/
def usage (e : UsageError) : Transcript :=
  match e with
  | .helpRequested => { exitCode := e.exitCode, output := help }
  | .versionRequested => { exitCode := e.exitCode, output := [name ++ " " ++ version] }
  | _ => { exitCode := e.exitCode, written := [(.stderr, "error: " ++ complaint e)] }

/-- A notice of the main task before there is a queue. -/
def record (n : Log.Notice) : Log.Record :=
  { level := n.level, target := n.place.target, line := some n.place.line, message := n.text }

/-- What the logger makes of records. -/
def logged (w : World) (logger : Log.Logger) (records : List Log.Record) : List (Log.Destination × String) :=
  records.filterMap (logger.emit w.stamp)

/-- What is written about an error that ends the program once there is a logger. -/
def fail {ε : Type} [Reportable ε] (w : World) (logger : Log.Logger) (before : List Log.Notice) (e : ε)
    (context : String) : Transcript where
  exitCode := configErrorCode
  written := logged w logger ((before ++ Report.notices e context).map record) ++
    [(.stderr, Report.userFacing e context)]

/-- What the program did in the course of a job. -/
def report (w : World) (color : Bool) (logger : Log.Logger) (before : List Log.Notice) (c : Course) : Transcript :=
  let written := logged w logger (before.map record ++ c.records)
  let output := match c.state.summary with
    | some (outcome, stats) =>
      Summary.styledLines color w.environment.stylesEnabled c.job.setup.name stats outcome w.elapsed
    | none => []
  match c.state.phase with
  | .ended outcome => { exitCode := outcome.exitCode, output, written }
  | .failed e =>
    let t := fail w logger [] e "Queue startup"
    { t with output, written := written ++ t.written }
  | _ => { exitCode := Outcome.interrupted.exitCode, output, written }

/-- The request for a logger that settings make. -/
def loggerRequest (w : World) (s : Settings) : Log.Logger.Request where
  level := s.logLevel
  format := s.logFormat
  file := s.logFile
  colour := s.useColor w.environment.terminal && w.environment.stylesEnabled

/-- Runs the job that settings describe; what the platform itself writes about a panic is left out. -/
def work (w : World) (s : Settings) (logger : Log.Logger) (before : List Log.Notice) : Transcript :=
  match s.queueConfig with
  | .error e => fail w logger before e "Queue configuration"
  | .ok c =>
    match Built.ofConfig c s.workload.code w.spawning with
    | .error (.refused e) => fail w logger before e "Queue startup"
    | .error (.panicked _) => { exitCode := panicCode, written := logged w logger (before.map record) }
    | .ok q =>
      report w (s.useColor w.environment.terminal) logger before (Course.run ⟨q.setup, s.workload⟩ w.signals)

/-- Reads the configuration file, sets up the logger, and runs the job. -/
def runSettings (w : World) (s : Settings) : Transcript :=
  match s.load w.files s.configFile with
  | (_, .error e) =>
    { exitCode := configErrorCode
      written := [(.stderr, Report.userFacing e "Loading configuration")]
      tree := w.files.tree }
  | (s, .ok path) =>
    match ({} : Log.Logger).install w.files.tree (loggerRequest w s) with
    | (_, tree, .error e) =>
      { exitCode := configErrorCode
        written := [(.stderr, "Error: could not initialise logging (" ++ e.message ++ ")")]
        tree }
    | (logger, tree, .ok _) =>
      let t := work w s logger (path.map Log.Notice.configurationLoaded).toList
      { t with tree }

/-- Everything that the program does with its arguments. -/
def run (w : World) (arguments : List String) : Transcript :=
  match Settings.parse arguments with
  | .error e => usage e
  | .ok s => runSettings w s

/-! ## What has to be known beforehand -/

/-- The paths at which a configuration file may be looked for. -/
def configPaths (defaultPath : Option String) (arguments : List String) : List String :=
  match Settings.parse arguments with
  | .error _ => []
  | .ok s => (s.configFile.or defaultPath).toList

/-- The settings of the job that the arguments ask for, if they do. -/
def settings? (files : Files) (arguments : List String) : Option Settings :=
  match Settings.parse arguments with
  | .error _ => none
  | .ok s =>
    match s.load files s.configFile with
    | (_, .error _) => none
    | (s, .ok _) => some s

/-- How many milliseconds the work takes. -/
def busyTime (files : Files) (arguments : List String) : Nat :=
  match settings? files arguments with
  | none => 0
  | some s =>
    match s.queueConfig with
    | .error _ => 0
    | .ok c => s.workload.busyTime c.workers

end Program

end Conveyor.Cli
