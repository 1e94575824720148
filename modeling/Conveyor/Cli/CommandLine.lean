import Conveyor.Cli.Settings
import Conveyor.Validation

/-!
# Command line

Reading the arguments of the program from left to right. Options take one value, which is attached to the option or is
the argument after it; switches take none. An argument is looked up by its name after two dashes, or by its letter
after one dash, where letters of switches and one option with its value can be run together.

An option that waits for its value does not take an argument that has the look of an option; the one exception is a
negative number for an option that can be negative. After two dashes alone no argument is an option, nor a value.

* `Setter.finish`: what has to hold at the end of the line.
* `parse`: the settings that a line describes, or why it is refused.
-/

namespace Conveyor.Cli

/-- An argument that takes a value. -/
inductive Opt where
  | configFile
  | name
  | workers
  | capacity
  | items
  | producers
  | workMs
  | failEvery
  | logLevel
  | logFile
  | logFormat
deriving DecidableEq

/-- Whether the value of an option can be a negative number. -/
def Opt.canBeNegative : Opt → Bool
  | .capacity => true
  | _ => false

/-- An argument that takes no value. -/
inductive Switch where
  | color
  | noColor
  | help
  | version
deriving DecidableEq

inductive Flag where
  | option (o : Opt)
  | switch (s : Switch)
deriving DecidableEq

namespace Flag

/-- All flags, each with its name and its letter if it has one. -/
def all : List (Flag × String × Option Char) :=
  [(.option .configFile, "config-file", some 'c'),
    (.option .name, "name", some 'n'),
    (.option .workers, "workers", some 'w'),
    (.option .capacity, "capacity", some 'b'),
    (.option .items, "items", some 'i'),
    (.option .producers, "producers", some 'p'),
    (.option .workMs, "work-ms", none),
    (.option .failEvery, "fail-every", none),
    (.switch .color, "color", none),
    (.switch .noColor, "no-color", none),
    (.option .logLevel, "log-level", some 'l'),
    (.option .logFile, "log-file", some 'f'),
    (.option .logFormat, "log-format", some 'o'),
    (.switch .help, "help", some 'h'),
    (.switch .version, "version", some 'V')]

/-- The flag of a name. -/
def ofName? (name : String) : Option Flag := (all.find? fun f => f.2.1 = name).map (·.1)

/-- The flag of a letter. -/
def ofLetter? (letter : Char) : Option Flag := (all.find? fun f => f.2.2 = some letter).map (·.1)

/-- The name of a flag. -/
def name (flag : Flag) : String := ((all.find? fun f => f.1 = flag).map (·.2.1)).getD ""

end Flag

/-- Why a command line does not describe a run. -/
inductive UsageError where
  /-- An argument that is no flag, where no value is awaited. -/
  | unknown (argument : String)
  | missingValue (option : Opt)
  /-- A value that is not one of those that the option can have. -/
  | notOffered (option : Opt) (value : String)
  | badValue (option : Opt) (value reason : String)
  | repeated (flag : Flag)
  /-- Coloured and plain output are both asked for. -/
  | contradiction
  | valueNotTaken (switch : Switch)
  | helpRequested
  | versionRequested
deriving DecidableEq

namespace UsageError

/-- Asking for help or for the version is no failure. -/
def exitCode : UsageError → Nat
  | .helpRequested | .versionRequested => 0
  | _ => 2

end UsageError

/-- The log levels that can be asked for. -/
def offeredLevels : List String := ["trace", "debug", "info", "warn", "error", "off"]

/-- The log formats that can be asked for. -/
def offeredFormats : List String := ["text", "ext", "json"]

namespace Settings

/-- Gives the setting of an option the value that a text stands for. -/
def assign (s : Settings) (o : Opt) (text : String) : Except UsageError Settings :=
  let numeral {α : Type} (r : Except Text.NumeralError α) : Except UsageError α :=
    r.mapError fun e => .badValue o text e.message
  let count : Except UsageError Nat := (Validation.positiveInt text).mapError fun e => .badValue o text e.message
  let word : Except UsageError Nat := numeral (Text.readNat Text.maxWord text.toList)
  let path : Except UsageError String := if text = "" then .error (.missingValue o) else .ok text
  let offered (among : List String) : Except UsageError String :=
    if text ∈ among then .ok text else .error (.notOffered o text)
  match o with
  | .configFile => path.map fun x => { s with configFile := some x }
  | .name => .ok { s with name := some text }
  | .workers => count.map fun x => { s with workers := some x }
  | .capacity => (numeral (Text.readInt Text.maxSigned text.toList)).map fun x => { s with capacity := some x }
  | .items => word.map fun x => { s with items := some x }
  | .producers => count.map fun x => { s with producers := some x }
  | .workMs => word.map fun x => { s with workMs := some x }
  | .failEvery => word.map fun x => { s with failEvery := some x }
  | .logLevel => (offered offeredLevels).map fun x => { s with logLevel := some x }
  | .logFile => path.map fun x => { s with logFile := some x }
  | .logFormat => (offered offeredFormats).map fun x => { s with logFormat := some x }

end Settings

/-! ## Arguments -/

/-- The look of an argument. -/
inductive Argument where
  /-- Two dashes alone. -/
  | escape
  /-- A name after two dashes, and what follows the first equals sign. -/
  | long (name : String) (value : Option String)
  /-- Letters after one dash. -/
  | short (letters : List Char)
  | plain
deriving DecidableEq

/-- The mark between a number and its exponent. -/
def isExponentMark (c : Char) : Bool := c = 'e' || c = 'E'

/-- Whether characters have the look of a number without a sign: digits, with one point that is neither first nor behind
an exponent, and one exponent that is neither first nor last. -/
def looksNumeric (cs : List Char) : Bool :=
  let mantissa := cs.takeWhile (!isExponentMark ·)
  cs.all (fun c => (Text.digit? c).isSome || c = '.' || isExponentMark c) &&
    cs.countP isExponentMark ≤ 1 && !cs.head?.any isExponentMark && !cs.getLast?.any isExponentMark &&
    mantissa.count '.' ≤ 1 && cs.head? ≠ some '.' && (cs.drop mantissa.length).all (· ≠ '.')

namespace Argument

/-- The look of an argument; where a negative number is welcome, it is plain. -/
def ofChars (negative : Bool) : List Char → Argument
  | ['-', '-'] => .escape
  | '-' :: '-' :: cs =>
    .long (String.ofList (cs.takeWhile (· ≠ '='))) <|
      match cs.dropWhile (· ≠ '=') with
      | [] => none
      | _ :: value => some (String.ofList value)
  | '-' :: c :: cs => if negative && looksNumeric (c :: cs) then .plain else .short (c :: cs)
  | _ => .plain

end Argument

/-! ## Reading a line -/

/-- What has been read of a line. -/
structure Setter where
  settings : Settings := {}
  /-- The flags that took effect. -/
  given : List Flag := []
  /-- The option that was named last and has not taken effect, with the value that followed it. -/
  pending : Option (Opt × Option String) := none
  /-- Whether two dashes alone have been read. -/
  escaped : Bool := false
deriving DecidableEq

namespace Setter

/-- Lets an option take effect with its value. -/
def give (p : Setter) (o : Opt) (value : String) : Except UsageError Setter :=
  if .option o ∈ p.given then .error (.repeated (.option o))
  else (p.settings.assign o value).map fun s => { p with settings := s, given := .option o :: p.given }

/-- Lets the pending option take effect. -/
def settle (p : Setter) : Except UsageError Setter :=
  match p.pending with
  | none => .ok p
  | some (o, none) => .error (.missingValue o)
  | some (o, some value) => { p with pending := none }.give o value

/-- Names an option whose value is to follow. -/
def await (p : Setter) (o : Opt) : Except UsageError Setter :=
  p.settle.map fun p => { p with pending := some (o, none) }

/-- Names an option along with its value. -/
def attach (p : Setter) (o : Opt) (value : String) : Except UsageError Setter :=
  p.settle.bind fun p => p.give o value

/-- Turns a switch on. -/
def turnOn (p : Setter) (switch : Switch) : Except UsageError Setter :=
  p.settle.bind fun p =>
    if .switch switch ∈ p.given then .error (.repeated (.switch switch))
    else
      let p := { p with given := .switch switch :: p.given }
      match switch with
      | .help => .error .helpRequested
      | .version => .error .versionRequested
      | .color => .ok { p with settings := { p.settings with color := true } }
      | .noColor => .ok { p with settings := { p.settings with noColor := true } }

/-- The option that waits for a value. -/
def awaiting? (p : Setter) : Option Opt :=
  match p.pending with
  | some (o, none) => some o
  | _ => none

/-- Reads letters that stand for flags. -/
def readLetters (p : Setter) (argument : String) : List Char → Except UsageError Setter
  | [] => .ok p
  | c :: rest =>
    match Flag.ofLetter? c with
    | none => .error (.unknown argument)
    | some (.switch s) => (p.turnOn s).bind fun p => p.readLetters argument rest
    | some (.option o) =>
      match rest with
      | [] => p.await o
      | '=' :: value => p.attach o (String.ofList value)
      | value => p.attach o (String.ofList value)

/-- Reads a flag by its name. -/
def readName (p : Setter) (argument name : String) (value : Option String) : Except UsageError Setter :=
  match Flag.ofName? name, value with
  | none, _ => .error (.unknown argument)
  | some (.switch s), none => p.turnOn s
  | some (.switch s), some _ => .error (.valueNotTaken s)
  | some (.option o), none => p.await o
  | some (.option o), some value => p.attach o value

/-- Reads one argument. -/
def read (p : Setter) (argument : String) : Except UsageError Setter :=
  if p.escaped then .error (.unknown argument)
  else
    match Argument.ofChars (p.awaiting?.any Opt.canBeNegative) argument.toList with
    | .escape => .ok { p with escaped := true }
    | .long name value => p.readName argument name value
    | .short letters => p.readLetters argument letters
    | .plain =>
      match p.awaiting? with
      | some o => .ok { p with pending := some (o, some argument) }
      | none => .error (.unknown argument)

/-- The settings at the end of a line: the last option has its value, and output is not asked to be both coloured and
plain. -/
def finish (p : Setter) : Except UsageError Settings :=
  p.settle.bind fun p =>
    if p.settings.color && p.settings.noColor then .error .contradiction else .ok p.settings

end Setter

/-- The settings that a command line describes. -/
def Settings.parse (arguments : List String) : Except UsageError Settings :=
  (arguments.foldlM Setter.read {}).bind Setter.finish

end Conveyor.Cli
