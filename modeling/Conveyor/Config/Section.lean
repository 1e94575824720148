import Conveyor.Config
import Conveyor.Toml.Document

/-!
# The queue section

Decoding the settings of a queue from a table of a configuration file, or from a document of its own. Settings that are
not given keep their defaults; a setting of the wrong type or an unknown key is an error, and of several errors the one
with the first key counts.
-/

namespace Conveyor

open Toml

/-- A setting of the queue section. -/
inductive Setting where
  | name
  | workers
  | capacity
deriving DecidableEq

/-- All settings, in the order in which they stand in a list. -/
def Setting.all : List Setting := [.name, .workers, .capacity]

def Setting.key : Setting → String
  | .name => "name"
  | .workers => "max_concurrency_level"
  | .capacity => "bounded_capacity"

/-- What a setting should be. -/
def Setting.expected : Setting → String
  | .name => "a string"
  | .workers => "usize"
  | .capacity => "i64"

/-- Why a value is no queue section. -/
inductive SectionError where
  /-- A value of the wrong type. -/
  | wrongType (found : String) (expected : String)
  /-- An integer out of range. -/
  | wrongValue (n : Int) (expected : String)
  | unknownKey (key : String)
  | tooLong (length : Nat)
deriving DecidableEq

/-- What a value is called where something else was expected. -/
def Toml.Value.describe : Value → String
  | .string s => "string " ++ Text.quote s
  | .integer n => s!"integer `{n}`"
  | .float x => s!"floating point `{x.text}`"
  | .boolean b => "boolean `" ++ (if b then "true" else "false") ++ "`"
  | .datetime d => "string " ++ Text.quote d.text
  | .array _ => "sequence"
  | .table _ => "map"

def SectionError.message : SectionError → String
  | .wrongType found expected => s!"invalid type: {found}, expected {expected}"
  | .wrongValue n expected => s!"invalid value: integer `{n}`, expected {expected}"
  | .unknownKey key =>
    s!"unknown field `{key}`, expected one of " ++ ", ".intercalate (Setting.all.map fun s => "`" ++ s.key ++ "`")
  | .tooLong n => s!"invalid length {n}, expected fewer elements in array"

/-- Where in a section an error lies. -/
structure SectionFault where
  error : SectionError
  /-- The setting that the error is about, if the section is a table. -/
  setting : Option Setting

/-- The text of a fault: the error on one line, and the key of the setting on the next. -/
def SectionFault.message (f : SectionFault) : String :=
  f.error.message ++ "\n" ++
    match f.setting with
    | some s => s!"in `{s.key}`\n"
    | none => ""

namespace QueueConfig

/-- Gives a setting a value. -/
def assign (c : QueueConfig) : Setting → Value → Except SectionError QueueConfig
  | .name, .string s => .ok { c with name := s }
  | .name, .datetime d => .ok { c with name := d.text }
  | .workers, .integer n =>
    if 0 ≤ n then .ok { c with workers := n.toNat } else .error (.wrongValue n Setting.workers.expected)
  | .capacity, .integer n => .ok { c with boundedCapacity := n }
  | s, v => .error (.wrongType v.describe s.expected)

/-- Assigns the entries of a table in turn. -/
def assignAll (c : QueueConfig) : Table → Except SectionFault QueueConfig
  | [] => .ok c
  | (key, v) :: rest =>
    match Setting.all.find? (·.key = key) with
    | none => .error ⟨.unknownKey key, none⟩
    | some s =>
      match c.assign s v with
      | .error e => .error ⟨e, some s⟩
      | .ok c => c.assignAll rest

/-- Assigns the elements of a list to the settings in their order. -/
def assignElements (c : QueueConfig) : List Setting → List Value → Except SectionFault QueueConfig
  | s :: ss, v :: vs =>
    match c.assign s v with
    | .error e => .error ⟨e, none⟩
    | .ok c => c.assignElements ss vs
  | _, _ => .ok c

/-- The settings in a queue section, which is a table or a list. -/
def ofSection : Value → Except SectionFault QueueConfig
  | .table t => assignAll {} t
  | .array vs =>
    match assignElements {} Setting.all vs with
    | .error f => .error f
    | .ok c => if Setting.all.length < vs.length then .error ⟨.tooLong vs.length, none⟩ else .ok c
  | v => .error ⟨.wrongType v.describe "struct QueueConfig", none⟩

/-- Whether the value of an entry of a document of its own is one that its setting can have: a date is not taken for a
text there, and an integer has to fit a signed word as a capacity, and any word otherwise. -/
def fits : String × Value → Bool
  | (_, .datetime _) => false
  | (key, .integer n) => if key = Setting.capacity.key then isSignedWord n else n ≤ Text.maxWord
  | _ => true

/-- The configuration that a document of its own describes. -/
def ofDocument (text : String) : Except ValidationError QueueConfig :=
  match readDocument text with
  | none => .error (.badDocument "malformed document")
  | some t =>
    if t.all fits then
      match assignAll {} t with
      | .error f => .error (.badDocument f.message)
      | .ok c => (c.validate).map fun _ => c
    else .error (.badDocument "value out of range")

end QueueConfig

end Conveyor
