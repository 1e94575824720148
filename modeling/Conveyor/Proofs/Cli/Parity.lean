import Conveyor.Log.Destination
import Conveyor.Log.Filter
import Conveyor.Log.Format
import Conveyor.Proofs.Cli.Line
import Conveyor.Proofs.Cli.Loading
import Conveyor.Proofs.Text.Numeral

/-!
# The same value in a file and on a line

A value is given to one setting either in a configuration file or on the command line, and settings come to the same if
they resolve to the same: the queue, the workload, and what becomes of output and log (`Resolved`).

* `file_and_line`: for most settings both places come to the same, refusals included. Three are an exception. A level or
  a form of the log that is not offered is taken from a file only. A log file is not named by the empty text on a line,
  nor by a dash in a file.
-/

namespace Conveyor.Cli

open Toml

/-! ## One value in a table -/

/-- An integer that a configuration file can have. -/
abbrev SignedWord : Type := { n : Int // isSignedWord n = true }

/-- A value as it is written in one place or the other. -/
abbrev Field.Said : Field → Type
  | .workers | .capacity | .items | .producers | .workMs | .failEvery => SignedWord
  | .color => Bool
  | .name | .logLevel | .logFormat | .logFile => String

/-- What a table has under the topic of a setting if it gives the setting a value and says nothing else. -/
def Field.entry : (f : Field) → f.Said → Value
  | .name, text => .table [(Setting.name.key, .string text)]
  | .workers, n => .table [(Setting.workers.key, .integer n.val)]
  | .capacity, n => .table [(Setting.capacity.key, .integer n.val)]
  | .items, n | .producers, n | .workMs, n | .failEvery, n => .integer n.val
  | .color, b => .boolean b
  | .logLevel, text | .logFormat, text | .logFile, text => .string text

/-- The table that gives one setting a value. -/
def Field.table (f : Field) (x : f.Said) : Table := [(f.topic.key, f.entry x)]

/-- The value of a topic is taken up from the table that has nothing else. -/
theorem fill_single (s : Settings) (topic : Topic) (v : Value) :
    s.fill [(topic.key, v)] = match s.takeValue topic v with
      | .ok s' => (s', .ok ())
      | .error e => (s, .error e) := by
  have honly : Table.only [(topic.key, v)] [topic] = [(topic.key, v)] := by
    simp [Table.only]
  have hsingle : Topic.all.filter (· ∈ [topic]) = [topic] := by
    cases topic <;> rfl
  have htake : s.take [(topic.key, v)] topic = s.takeValue topic v := by
    simp [Settings.take, Table.get?]
  rw [← honly, fill_only, hsingle, Settings.fillTopics, htake]
  cases s.takeValue topic v <;> rfl

/-! ## One value on a line -/

/-- The lines that give an option an integer, written in one way or another. -/
def GivesInteger (o : Opt) (n : Int) (arguments : List String) : Prop :=
  ∃ text : String, Text.Writes text.toList n ∧ Gives o text arguments

/-- The lines that give a setting a value and do nothing else. -/
def Field.Line : (f : Field) → f.Said → List String → Prop
  | .name, text, arguments => Gives .name text arguments
  | .workers, n, arguments => GivesInteger .workers n.val arguments
  | .capacity, n, arguments => GivesInteger .capacity n.val arguments
  | .items, n, arguments => GivesInteger .items n.val arguments
  | .producers, n, arguments => GivesInteger .producers n.val arguments
  | .workMs, n, arguments => GivesInteger .workMs n.val arguments
  | .failEvery, n, arguments => GivesInteger .failEvery n.val arguments
  | .color, b, arguments => arguments = [if b then "--color" else "--no-color"]
  | .logLevel, text, arguments => Gives .logLevel text arguments
  | .logFormat, text, arguments => Gives .logFormat text arguments
  | .logFile, text, arguments => Gives .logFile text arguments

/-- There is a line for every value. -/
theorem exists_line (f : Field) (x : f.Said) : ∃ arguments, f.Line x arguments := by
  have hinteger (o : Opt) (n : Int) : ∃ arguments, GivesInteger o n arguments :=
    ⟨_, toString n, Text.writes_toString n, .attached⟩
  cases f with
  | name | logLevel | logFormat | logFile => exact ⟨_, .attached⟩
  | workers | capacity | items | producers | workMs | failEvery => exact hinteger _ _
  | color => exact ⟨_, rfl⟩

/-! ## What settings resolve to -/

/-- What a run makes of its settings. -/
structure Resolved where
  queue : QueueConfig
  workload : Workload
  /-- What is let through to the log, if that can be told. -/
  filter : Option Log.Filter
  format : Log.Format
  destination : Log.Destination
  /-- Whether output is coloured, given whether it goes to a terminal. -/
  color : Bool → Bool

/-- What settings resolve to, if a queue can be built from them. -/
def Settings.resolve? (s : Settings) : Option Resolved :=
  s.queueConfig.toOption.map fun q =>
    { queue := q
      workload := s.workload
      filter := Log.Filter.parse? (s.logLevel.getD "info")
      format := .ofSetting s.logFormat
      destination := .ofSetting s.logFile
      color := s.useColor }

/-- What settings that may have been refused resolve to. -/
def resolved? {ε : Type} (r : Except ε Settings) : Option Resolved := r.toOption.bind Settings.resolve?

/-- What a table alone resolves to. -/
def fromTable (t : Table) : Option Resolved :=
  resolved? ((({} : Settings).fill t).2.map fun _ => (({} : Settings).fill t).1)

/-- What a line alone resolves to. -/
def fromLine (arguments : List String) : Option Resolved := resolved? (Settings.parse arguments)

theorem fromTable_table (f : Field) (x : f.Said) :
    fromTable (f.table x) = resolved? (({} : Settings).takeValue f.topic (f.entry x)) := by
  rw [fromTable, Field.table, fill_single]
  cases ({} : Settings).takeValue f.topic (f.entry x) <;> rfl

theorem fromLine_of_gives {o : Opt} {text : String} {arguments : List String} (h : Gives o text arguments) :
    fromLine arguments = resolved? (({} : Settings).assign o text) := by
  rw [fromLine, parse_of_gives h]

/-- Settings whose queue is not accepted resolve to nothing. -/
theorem resolve?_eq_none {s : Settings} {e : ValidationError} (h : s.queue.validate = .error e) :
    s.resolve? = none := by
  rw [Settings.resolve?, Settings.queueConfig, h]
  rfl

section Section

variable {st : Setting} {v : Value} {q : QueueConfig}

theorem find?_key (st : Setting) : Setting.all.find? (·.key = st.key) = some st := by
  cases st <;> rfl

/-- A section with one setting is decoded if its value can be assigned. -/
theorem ofSection_of_assign (h : ({} : QueueConfig).assign st v = .ok q) :
    QueueConfig.ofSection (.table [(st.key, v)]) = .ok q := by
  simp only [QueueConfig.ofSection, QueueConfig.assignAll, find?_key, h]

theorem ofSection_of_error {e : SectionError} (h : ({} : QueueConfig).assign st v = .error e) :
    QueueConfig.ofSection (.table [(st.key, v)]) = .error ⟨e, some st⟩ := by
  simp only [QueueConfig.ofSection, QueueConfig.assignAll, find?_key, h]

/-- The settings that a section with one setting gives. -/
theorem queue_fillQueue_single (h : ({} : QueueConfig).assign st v = .ok q) :
    (({} : Settings).fillQueue [(st.key, v)] q).queue = q := by
  have hothers := (QueueConfig.value_assign h).2
  obtain ⟨name, workers, c⟩ := q
  cases st with
  | name =>
    obtain rfl : workers = 1 := hothers .workers nofun
    obtain rfl : c = -1 := hothers .capacity nofun
    rfl
  | workers =>
    obtain rfl : name = "queue" := hothers .name nofun
    obtain rfl : c = -1 := hothers .capacity nofun
    rfl
  | capacity =>
    obtain rfl : name = "queue" := hothers .name nofun
    obtain rfl : workers = 1 := hothers .workers nofun
    rfl

/-- A section with one setting resolves to what its value would if nobody had checked the section before. -/
theorem resolved?_takeQueue (st : Setting) (v : Value) :
    resolved? (({} : Settings).takeQueue (.table [(st.key, v)])) =
      (({} : QueueConfig).assign st v).toOption.bind fun q =>
        (({} : Settings).fillQueue [(st.key, v)] q).resolve? := by
  cases hassign : ({} : QueueConfig).assign st v with
  | error e =>
    simp only [Settings.takeQueue, ofSection_of_error hassign]
    rfl
  | ok q =>
    cases hvalid : q.validate with
    | error e =>
      have hnone : (({} : Settings).fillQueue [(st.key, v)] q).resolve? = none :=
        resolve?_eq_none (by rw [queue_fillQueue_single hassign, hvalid])
      simp only [Settings.takeQueue, ofSection_of_assign hassign, hvalid]
      exact hnone.symm
    | ok _ =>
      simp only [Settings.takeQueue, ofSection_of_assign hassign, hvalid]
      rfl

end Section

/-! ## The same value in both places -/

section Integers

variable {n : SignedWord} {text : String}

theorem SignedWord.bounds (n : SignedWord) : -(Text.maxSigned + 1) ≤ n.val ∧ n.val ≤ Text.maxSigned := by
  have h := n.property
  simp only [isSignedWord, Bool.and_eq_true, decide_eq_true_eq] at h
  omega

theorem SignedWord.le_maxWord (n : SignedWord) : n.val ≤ Text.maxWord := by
  have hbound := n.bounds.2
  have hwords : Text.maxSigned ≤ Text.maxWord := by decide
  omega

/-- A count of a file and a word of a line are accepted for the same integers, and come to the same. -/
theorem count_agrees {ε : Type} (h : Text.Writes text.toList n.val) (topic : Topic) (g : Nat → Settings)
    (e : Text.NumeralError → ε) :
    resolved? ((topic.count (.integer n.val)).map g) =
      resolved? (((Text.readNat Text.maxWord text.toList).mapError e).map g) := by
  by_cases hneg : n.val < 0
  · have hcount : topic.count (.integer n.val) = .error (.notNonNegative topic.key) := if_neg (by omega)
    rw [hcount, Text.readNat_of_neg h hneg]
    rfl
  · have hcount : topic.count (.integer n.val) = .ok n.val.toNat := if_pos (by omega)
    rw [hcount, Text.readNat_of_writes h (by omega) n.le_maxWord]
    rfl

/-- On a line, a number of workers or of producers has to be positive. -/
theorem refused_of_not_pos (h : Text.Writes text.toList n.val) (hpos : ¬ 0 < n.val) {o : Opt}
    (ho : o = .workers ∨ o = .producers) : resolved? (({} : Settings).assign o text) = none := by
  obtain ⟨e, he⟩ : ∃ e, Validation.positiveInt text = .error e := by
    rw [Validation.positiveInt_of_writes h n.le_maxWord, if_neg hpos]
    split <;> exact ⟨_, rfl⟩
  rcases ho with rfl | rfl <;>
  · simp only [Settings.assign, he]
    rfl

theorem workers_agree (h : Text.Writes text.toList n.val) :
    resolved? (({} : Settings).takeValue .queue (Field.workers.entry n)) =
      resolved? (({} : Settings).assign .workers text) := by
  rw [Settings.takeValue, Field.entry, resolved?_takeQueue]
  by_cases hpos : 0 < n.val
  · have hassign : ({} : QueueConfig).assign .workers (.integer n.val) = .ok { workers := n.val.toNat } :=
      if_pos (by omega)
    rw [hassign]
    simp only [Settings.assign, Validation.positiveInt_of_writes h n.le_maxWord, if_pos hpos]
    rfl
  · rw [refused_of_not_pos h hpos (.inl rfl)]
    by_cases hzero : n.val = 0
    · rw [hzero]
      rfl
    · have hassign : ({} : QueueConfig).assign .workers (.integer n.val) = .error (.wrongValue n.val "usize") :=
        if_neg (by omega)
      rw [hassign]
      rfl

theorem producers_agree (h : Text.Writes text.toList n.val) :
    resolved? (({} : Settings).takeValue .producers (Field.producers.entry n)) =
      resolved? (({} : Settings).assign .producers text) := by
  by_cases hpos : 0 < n.val
  · obtain ⟨k, hk⟩ : ∃ k, n.val.toNat = k + 1 := ⟨n.val.toNat - 1, by omega⟩
    have hcount : Topic.producers.count (.integer n.val) = .ok (k + 1) := by
      rw [← hk]
      exact if_pos (by omega)
    simp only [Settings.takeValue, Field.entry, hcount, Settings.assign,
      Validation.positiveInt_of_writes h n.le_maxWord, if_pos hpos, hk]
    rfl
  · rw [refused_of_not_pos h hpos (.inr rfl)]
    by_cases hzero : n.val = 0
    · rw [Field.entry, hzero]
      rfl
    · have hcount : Topic.producers.count (.integer n.val) = .error (.notNonNegative "producers") :=
        if_neg (by omega)
      simp only [Settings.takeValue, Field.entry, hcount]
      rfl

theorem capacity_agrees (h : Text.Writes text.toList n.val) :
    resolved? (({} : Settings).takeValue .queue (Field.capacity.entry n)) =
      resolved? (({} : Settings).assign .capacity text) := by
  rw [Settings.takeValue, Field.entry, resolved?_takeQueue]
  simp only [Settings.assign, Text.readInt_of_writes h n.bounds.1 n.bounds.2]
  rfl

end Integers

section Texts

variable {text : String}

theorem name_agrees (text : String) :
    resolved? (({} : Settings).takeValue .queue (Field.name.entry text)) =
      resolved? (({} : Settings).assign .name text) :=
  resolved?_takeQueue .name (.string text)

/-- Settings for nothing but the log. -/
def logOnly (level format file : Option String) : Settings :=
  { logLevel := level, logFormat := format, logFile := file }

/-- What settings for nothing but the log resolve to. -/
def logResolved (level format file : Option String) : Resolved where
  queue := {}
  workload := ({} : Settings).workload
  filter := Log.Filter.parse? (level.getD "info")
  format := .ofSetting format
  destination := .ofSetting file
  color := ({} : Settings).useColor

theorem resolve?_logOnly (level format file : Option String) :
    (logOnly level format file).resolve? = some (logResolved level format file) := by
  have hqueue : ({} : Settings).queueConfig = .ok {} := rfl
  have hsame : (logOnly level format file).queueConfig = ({} : Settings).queueConfig := rfl
  rw [Settings.resolve?, hsame, hqueue]
  rfl

/-- The word for no file, and in a table a dash as well, leave the log at standard error. -/
theorem ofSetting_filter (hdash : text ≠ "-") :
    Log.Destination.ofSetting ((some text).filter namesLogFile) = .ofSetting (some text) := by
  by_cases hnone : Log.Destination.isNone text = true
  · have hunnamed : namesLogFile text = false := by
      simp [namesLogFile, hnone]
    rw [Option.filter_some_neg (by simp [hunnamed]), Log.Destination.ofSetting, Log.Destination.ofSetting, if_pos hnone]
  · have hnamed : namesLogFile text = true := by
      simp [namesLogFile, hnone, hdash]
    rw [Option.filter_some_pos hnamed]

end Texts

/-- How the two places read a value. -/
inductive Reading where
  /-- Alike, be it accepted or refused. -/
  | common
  /-- A file is accepted, and a line is refused. -/
  | fileOnly
  /-- It is the name of a log file on a line, and stands for no log file in a file. -/
  | sentinel
deriving DecidableEq

/-- How a value of a setting is read. -/
def Field.reading : (f : Field) → f.Said → Reading
  | .logLevel, text => if text ∈ offeredLevels then .common else .fileOnly
  | .logFormat, text => if text ∈ offeredFormats then .common else .fileOnly
  | .logFile, text => if text = "" then .fileOnly else if text = "-" then .sentinel else .common
  | .name, _ | .workers, _ | .capacity, _ | .items, _ | .producers, _ | .workMs, _ | .failEvery, _ | .color, _ =>
    .common

/-- What a value of a setting comes to in a file and on a line. -/
structure Parity (f : Field) (x : f.Said) (arguments : List String) : Prop where
  common : f.reading x = .common → fromTable (f.table x) = fromLine arguments
  fileOnly : f.reading x = .fileOnly → (∃ r, fromTable (f.table x) = some r) ∧ fromLine arguments = none
  sentinel : f.reading x = .sentinel → ∃ r, fromTable (f.table x) = some r ∧ r.destination = .stderr ∧
    fromLine arguments = some { r with destination := .file "-" }

section Parity

variable {f : Field} {x : f.Said} {text : String} {arguments : List String} {r : Resolved}

theorem Parity.of_common (hx : f.reading x = .common) (h : fromTable (f.table x) = fromLine arguments) :
    Parity f x arguments where
  common _ := h
  fileOnly hnot := nomatch hx.symm.trans hnot
  sentinel hnot := nomatch hx.symm.trans hnot

theorem Parity.of_fileOnly (hx : f.reading x = .fileOnly) (hfile : fromTable (f.table x) = some r)
    (hline : fromLine arguments = none) : Parity f x arguments where
  common hnot := nomatch hx.symm.trans hnot
  fileOnly _ := ⟨⟨r, hfile⟩, hline⟩
  sentinel hnot := nomatch hx.symm.trans hnot

theorem Parity.of_sentinel (hx : f.reading x = .sentinel) (hfile : fromTable (f.table x) = some r)
    (hstderr : r.destination = .stderr) (hline : fromLine arguments = some { r with destination := .file "-" }) :
    Parity f x arguments where
  common hnot := nomatch hx.symm.trans hnot
  fileOnly hnot := nomatch hx.symm.trans hnot
  sentinel _ := ⟨r, hfile, hstderr, hline⟩

/-- A value that an option takes as a table does. -/
theorem Parity.of_gives {o : Opt} (h : Gives o text arguments) (hx : f.reading x = .common)
    (hagree : resolved? (({} : Settings).takeValue f.topic (f.entry x)) =
      resolved? (({} : Settings).assign o text)) : Parity f x arguments :=
  .of_common hx (by rw [fromTable_table, fromLine_of_gives h, hagree])

/-- A text that is taken from a line only if it is offered. -/
theorem Parity.of_offered {among : List String} (hx : f.reading x = if text ∈ among then .common else .fileOnly)
    (hfile : fromTable (f.table x) = some r) (hline : fromLine arguments = if text ∈ among then some r else none) :
    Parity f x arguments := by
  by_cases hoffered : text ∈ among
  · rw [if_pos hoffered] at hx hline
    exact .of_common hx (hfile.trans hline.symm)
  · rw [if_neg hoffered] at hx hline
    exact .of_fileOnly hx hfile hline

theorem resolved?_guard {ε : Type} {c : Prop} [Decidable c] {e : ε} {g : String → Settings} :
    resolved? ((if c then .ok text else .error e : Except ε String).map g) =
      if c then (g text).resolve? else none := by
  split <;> rfl

theorem parity_logLevel (h : Gives .logLevel text arguments) : Parity .logLevel text arguments := by
  have hresolve := resolve?_logOnly (some text) none none
  refine .of_offered rfl (fromTable_table .logLevel text |>.trans hresolve) ?_
  rw [fromLine_of_gives h, ← hresolve]
  exact resolved?_guard

theorem parity_logFormat (h : Gives .logFormat text arguments) : Parity .logFormat text arguments := by
  have hresolve := resolve?_logOnly none (some text) none
  refine .of_offered rfl (fromTable_table .logFormat text |>.trans hresolve) ?_
  rw [fromLine_of_gives h, ← hresolve]
  exact resolved?_guard

/-- A dash is the one text that names a log file on a line and none in a file. -/
theorem parity_logFile (h : Gives .logFile text arguments) : Parity .logFile text arguments := by
  have hfile : fromTable (Field.logFile.table text) =
      some (logResolved none none ((some text).filter namesLogFile)) :=
    (fromTable_table .logFile text).trans (resolve?_logOnly none none _)
  by_cases hempty : text = ""
  · refine .of_fileOnly (if_pos hempty) hfile ?_
    rw [fromLine_of_gives h]
    simp only [Settings.assign, if_pos hempty]
    rfl
  · have hline : fromLine arguments = some (logResolved none none (some text)) := by
      rw [fromLine_of_gives h, ← resolve?_logOnly]
      simp only [Settings.assign, if_neg hempty]
      rfl
    by_cases hdash : text = "-"
    · subst hdash
      exact .of_sentinel rfl hfile rfl hline
    · have hreading : Field.logFile.reading text = .common := (if_neg hempty).trans (if_neg hdash)
      refine .of_common hreading ?_
      rw [hfile, hline, logResolved, logResolved, ofSetting_filter hdash]

end Parity

theorem parity_of_line {f : Field} {x : f.Said} {arguments : List String} (h : f.Line x arguments) :
    Parity f x arguments := by
  cases f with
  | name => exact .of_gives h rfl (name_agrees x)
  | workers =>
    obtain ⟨text, hwrites, hgives⟩ := h
    exact .of_gives hgives rfl (workers_agree hwrites)
  | capacity =>
    obtain ⟨text, hwrites, hgives⟩ := h
    exact .of_gives hgives rfl (capacity_agrees hwrites)
  | producers =>
    obtain ⟨text, hwrites, hgives⟩ := h
    exact .of_gives hgives rfl (producers_agree hwrites)
  | items | workMs | failEvery =>
    obtain ⟨text, hwrites, hgives⟩ := h
    exact .of_gives hgives rfl (count_agrees hwrites _ _ _)
  | color =>
    obtain rfl := h
    refine .of_common rfl ?_
    rw [fromTable_table]
    cases x <;> rfl
  | logLevel => exact parity_logLevel h
  | logFormat => exact parity_logFormat h
  | logFile => exact parity_logFile h

/-- **A value means the same in a file and on a line.** Whatever value a setting is given, there are lines that give it,
and each of them comes to the same as a file that gives it, refusals included. The exceptions are values for the log: a
level or a form that is not offered, the empty path, and the dash. -/
theorem file_and_line (f : Field) (x : f.Said) :
    (∃ arguments, f.Line x arguments) ∧ ∀ arguments, f.Line x arguments → Parity f x arguments :=
  ⟨exists_line f x, fun _ => parity_of_line⟩

theorem sample_file_and_line :
    Field.workers.Line ⟨3, rfl⟩ ["-w", "+3"] ∧ fromTable (Field.workers.table ⟨3, rfl⟩) = fromLine ["-w", "+3"] ∧
      (fromLine ["-w", "+3"]).map (·.queue.workers) = some 3 := by
  have hwrites : Text.Writes ['+', '3'] 3 := .plus (n := 3) (List.cons_ne_nil _ _) rfl
  have hline : Field.workers.Line ⟨3, rfl⟩ ["-w", "+3"] := ⟨"+3", hwrites, .letterSeparate (c := 'w') rfl rfl⟩
  exact ⟨hline, ((file_and_line .workers ⟨3, rfl⟩).2 _ hline).common rfl, rfl⟩

/-- A form of the log that is not offered is taken from a file, and a dash names a log file on a line only. -/
theorem file_differs_from_line :
    Field.logFormat.Line "xml" ["--log-format=xml"] ∧ (fromTable (Field.logFormat.table "xml")).isSome ∧
      fromLine ["--log-format=xml"] = none ∧
      Field.logFile.Line "-" ["--log-file=-"] ∧
      (fromTable (Field.logFile.table "-")).map (·.destination) = some .stderr ∧
      (fromLine ["--log-file=-"]).map (·.destination) = some (.file "-") :=
  ⟨.attached, rfl, rfl, .attached, rfl, rfl⟩

end Conveyor.Cli
