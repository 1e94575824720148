import Conveyor.Proofs.Report
import Conveyor.Proofs.Text.Escape
import Conveyor.Proofs.Text.Numeral

/-!
# Counts and names given as text

`Trimmed` says what is left of a text without the white space around it, and `Numeral` which texts are numerals: digits,
behind a plus sign or not. A text that is no numeral is `Malformed`: there is nothing to read, a sign alone, or a
character that does not belong there (`malformed_iff`). The reader of counts goes by these: `readNat` reads the numerals
up to its limit (`readNat_eq_ok`), and `trim` gives what is left (`trim_eq_iff`).

A name is refused if it is `Blank`, or else if it holds a control character (`queueName_eq_error`). Then the message
holds the name, but in its escaped form.

* `positiveInt_exact`: for every text, which count it is read as, or why it is refused.
* `refused_name_harmless`: which texts are accepted as names, and that the report of any other shows which it was,
  without a control character.
-/

namespace Conveyor.Text

/-! ## White space around a text -/

/-- `ts` is what is left of `cs` without the white space at its two ends. -/
structure Trimmed (cs ts : List Char) : Prop where
  around : ∃ before after, cs = before ++ ts ++ after ∧ ∀ c ∈ before ++ after, isBlank c = true
  first : ∀ c, ts.head? = some c → isBlank c = false
  last : ∀ c, ts.getLast? = some c → isBlank c = false

section Trimmed

variable {cs ts : List Char}

theorem head?_dropWhile_isBlank {c : Char} (h : (cs.dropWhile isBlank).head? = some c) : isBlank c = false := by
  have hnot := List.head?_dropWhile_not isBlank cs
  rw [h] at hnot
  exact hnot

theorem dropWhile_isBlank_eq_self (h : ∀ c, cs.head? = some c → isBlank c = false) : cs.dropWhile isBlank = cs := by
  cases cs with
  | nil => rfl
  | cons c cs =>
    have hc := h c rfl
    exact List.dropWhile_cons_of_neg (by simp [hc])

/-- What is left of a text does not begin with white space, although its end was cut last. -/
theorem head?_trim {c : Char} (h : (trim cs).head? = some c) : isBlank c = false := by
  obtain ⟨blanks, hblanks⟩ : ∃ blanks, cs.dropWhile isBlank = trim cs ++ blanks := by
    refine ⟨((cs.dropWhile isBlank).reverse.takeWhile isBlank).reverse, ?_⟩
    rw [trim, ← List.reverse_append, List.takeWhile_append_dropWhile, List.reverse_reverse]
  have hhead : (cs.dropWhile isBlank).head? = some c := by
    rw [hblanks, List.head?_append, h]
    rfl
  exact head?_dropWhile_isBlank hhead

theorem trimmed_trim (cs : List Char) : Trimmed cs (trim cs) where
  around := by
    refine ⟨cs.takeWhile isBlank, ((cs.dropWhile isBlank).reverse.takeWhile isBlank).reverse, ?_, ?_⟩
    · rw [List.append_assoc, trim, ← List.reverse_append, List.takeWhile_append_dropWhile, List.reverse_reverse,
        List.takeWhile_append_dropWhile]
    · intro c hc
      rcases List.mem_append.1 hc with hc | hc
      · exact List.all_eq_true.1 List.all_takeWhile c hc
      · exact List.all_eq_true.1 List.all_takeWhile c (List.mem_reverse.1 hc)
  first c hc := head?_trim hc
  last c hc := by
    rw [trim, List.getLast?_reverse] at hc
    exact head?_dropWhile_isBlank hc

/-- What is left without the white space around it is what `trim` gives. -/
theorem trim_eq_iff : trim cs = ts ↔ Trimmed cs ts := by
  constructor
  · rintro rfl
    exact trimmed_trim cs
  · rintro ⟨⟨before, after, rfl, hblank⟩, hfirst, hlast⟩
    have hbefore : ∀ c ∈ before, isBlank c = true := fun c hc => hblank c (List.mem_append_left _ hc)
    have hafter : ∀ c ∈ after, isBlank c = true := fun c hc => hblank c (List.mem_append_right _ hc)
    rw [trim, List.append_assoc, List.dropWhile_append_of_pos hbefore]
    cases ts with
    | nil => simp [dropWhile_eq_nil.2 hafter]
    | cons t ts =>
      have hkept : (t :: ts ++ after).dropWhile isBlank = t :: ts ++ after := dropWhile_isBlank_eq_self hfirst
      have hend : (t :: ts).reverse.dropWhile isBlank = (t :: ts).reverse :=
        dropWhile_isBlank_eq_self fun c hc => hlast c (by rwa [List.head?_reverse] at hc)
      rw [hkept, List.reverse_append, List.dropWhile_append_of_pos fun c hc => hafter c (List.mem_reverse.1 hc), hend,
        List.reverse_reverse]

end Trimmed

/-! ## Numerals -/

/-- A text that is a numeral, and its value: one or more digits, behind a plus sign or not. -/
inductive Numeral : List Char → Nat → Prop where
  | bare {ds : List Char} : ds ≠ [] → (∀ c ∈ ds, c.isDigit = true) → Numeral ds (Nat.ofDigitChars 10 ds 0)
  | plus {ds : List Char} : ds ≠ [] → (∀ c ∈ ds, c.isDigit = true) → Numeral ('+' :: ds) (Nat.ofDigitChars 10 ds 0)

/-- A text that is no numeral, and why. -/
inductive Malformed : List Char → Prop where
  | empty : Malformed []
  | sign : Malformed ['+']
  /-- A character that is no digit, and no plus sign at the beginning. -/
  | stray {before after : List Char} {c : Char} : c.isDigit = false → (c = '+' → before ≠ []) →
      Malformed (before ++ c :: after)

section Numeral

variable {cs : List Char} {n m limit : Nat}

theorem isDigit_of_digit? {c : Char} {d : Nat} (h : digit? c = some d) : c.isDigit = true :=
  Char.isDigit_iff_toNat.2 (digit?_bounds h)

theorem isDigit_of_digitsValue {acc : Nat} (h : digitsValue acc cs = some n) : ∀ c ∈ cs, c.isDigit = true := by
  intro c hc
  obtain ⟨d, hd⟩ := digit?_of_digitsValue h c hc
  exact isDigit_of_digit? hd

/-- A numeral writes its value. -/
theorem Numeral.writes (h : Numeral cs n) : Writes cs n := by
  cases h with
  | bare hne hds => exact .bare hne (digitsValue_eq hds 0)
  | plus hne hds => exact .plus hne (digitsValue_eq hds 0)

theorem numeral_of_digitsValue (hne : cs ≠ []) (h : digitsValue 0 cs = some n) :
    Numeral cs n ∧ Numeral ('+' :: cs) n := by
  have hds := isDigit_of_digitsValue h
  have hvalue : n = Nat.ofDigitChars 10 cs 0 := by
    rw [digitsValue_eq hds] at h
    exact (Option.some.inj h).symm
  subst hvalue
  exact ⟨.bare hne hds, .plus hne hds⟩

/-- A reader with a limit reads the numerals up to it. -/
theorem readNat_eq_ok : readNat limit cs = .ok n ↔ Numeral cs n ∧ n ≤ limit := by
  constructor
  · intro h
    unfold readNat at h
    split at h
    case h_1 => cases h
    case h_2 => cases h
    case h_3 ds hds =>
      obtain ⟨hvalue, hle⟩ := (readDigits_eq_ok (Nat.zero_le _)).1 h
      have hne : ds ≠ [] := by
        rintro rfl
        exact hds rfl
      exact ⟨(numeral_of_digitsValue hne hvalue).2, hle⟩
    case h_4 hne _ _ =>
      obtain ⟨hvalue, hle⟩ := (readDigits_eq_ok (Nat.zero_le _)).1 h
      exact ⟨(numeral_of_digitsValue hne hvalue).1, hle⟩
  · rintro ⟨h, hle⟩
    have hread := readNat_of_writes h.writes (Int.natCast_nonneg n) (Int.ofNat_le.2 hle)
    rwa [Int.toNat_natCast] at hread

/-- A numeral has one value. -/
theorem Numeral.unique (h : Numeral cs n) (h' : Numeral cs m) : n = m := by
  have hn : readNat (n + m) cs = .ok n := readNat_eq_ok.2 ⟨h, Nat.le_add_right n m⟩
  have hm : readNat (n + m) cs = .ok m := readNat_eq_ok.2 ⟨h', Nat.le_add_left m n⟩
  rw [hn] at hm
  exact Except.ok.inj hm

/-- The decimal text of a number is a numeral. -/
theorem numeral_toString (n : Nat) : Numeral (toString n).toList n := by
  have htext : (toString n).toList = Nat.toDigits 10 n := by
    rw [Nat.toString_eq_ofList_toDigits, String.toList_ofList]
  rw [htext]
  exact (numeral_of_digitsValue Nat.toDigits_ne_nil (digitsValue_toDigits n)).1

theorem not_numeral_of_malformed (h : Malformed cs) : ¬ Numeral cs n := by
  intro hn
  cases h with
  | empty =>
    cases hn with
    | bare hne => exact hne rfl
  | sign =>
    cases hn with
    | bare _ hds => exact absurd (hds '+' List.mem_cons_self) (by decide)
    | plus hne => exact hne rfl
  | @stray before after c hc hplus =>
    have hmem : c ∈ before ++ c :: after := List.mem_append_right _ List.mem_cons_self
    generalize hcs : before ++ c :: after = cs at hn hmem
    cases hn with
    | bare _ hds =>
      rw [hds c hmem] at hc
      cases hc
    | @plus ds _ hds =>
      -- The sign is not the stray character, so this is one of the digits.
      cases before with
      | nil => exact hplus (List.cons.inj hcs).1 rfl
      | cons b before =>
        have hin : c ∈ ds := by
          rw [← (List.cons.inj hcs).2]
          exact List.mem_append_right _ List.mem_cons_self
        rw [hds c hin] at hc
        cases hc

theorem digits_or_stray (cs : List Char) :
    (∀ c ∈ cs, c.isDigit = true) ∨ ∃ before c after, cs = before ++ c :: after ∧ c.isDigit = false := by
  by_cases hall : cs.all Char.isDigit = true
  · exact .inl (List.all_eq_true.1 hall)
  · obtain ⟨c, hc, hdigit⟩ := List.all_eq_false.1 (Bool.eq_false_iff.2 hall)
    obtain ⟨before, after, hcs⟩ := List.append_of_mem hc
    exact .inr ⟨before, c, after, hcs, Bool.eq_false_iff.2 hdigit⟩

theorem numeral_or_malformed (cs : List Char) : (∃ n, Numeral cs n) ∨ Malformed cs := by
  cases cs with
  | nil => exact .inr .empty
  | cons c cs =>
    by_cases hplus : c = '+'
    · subst hplus
      rcases digits_or_stray cs with hds | ⟨before, x, after, rfl, hx⟩
      · by_cases hne : cs = []
        · exact .inr (hne ▸ .sign)
        · exact .inl ⟨_, .plus hne hds⟩
      · have hstray : Malformed (('+' :: before) ++ x :: after) := .stray hx fun _ => List.cons_ne_nil _ _
        exact .inr hstray
    · rcases digits_or_stray (c :: cs) with hds | ⟨before, x, after, hcs, hx⟩
      · exact .inl ⟨_, .bare (List.cons_ne_nil _ _) hds⟩
      · right
        rw [hcs]
        apply Malformed.stray hx
        rintro rfl rfl
        exact hplus (List.cons.inj hcs).1

/-- The malformed texts are those that are no numeral. -/
theorem malformed_iff : Malformed cs ↔ ∀ n, ¬ Numeral cs n := by
  constructor
  · intro h n
    exact not_numeral_of_malformed h
  · intro h
    exact (numeral_or_malformed cs).resolve_left fun ⟨n, hn⟩ => h n hn

end Numeral

end Conveyor.Text

namespace Conveyor.Validation

open Text

/-! ## Counts -/

/-- A text that is the numeral of `n` with white space around it, or none. -/
def Denotes (text : String) (n : Nat) : Prop := ∃ ts, Trimmed text.toList ts ∧ Numeral ts n

/-- A text that is no numeral, whatever white space is around it. -/
def Senseless (text : String) : Prop := ∃ ts, Trimmed text.toList ts ∧ Malformed ts

section Counts

variable {text : String} {n m : Nat}

theorem denotes_iff : Denotes text n ↔ Numeral (trim text.toList) n := by
  constructor
  · rintro ⟨ts, hts, hn⟩
    rwa [trim_eq_iff.2 hts]
  · intro hn
    exact ⟨_, trimmed_trim _, hn⟩

theorem senseless_iff : Senseless text ↔ ∀ n, ¬ Denotes text n := by
  simp only [denotes_iff, ← malformed_iff]
  constructor
  · rintro ⟨ts, hts, hm⟩
    rwa [trim_eq_iff.2 hts]
  · intro hm
    exact ⟨_, trimmed_trim _, hm⟩

theorem Denotes.unique (h : Denotes text n) (h' : Denotes text m) : n = m :=
  (denotes_iff.1 h).unique (denotes_iff.1 h')

/-- The decimal text of a number has no white space around it. -/
theorem denotes_toString (n : Nat) : Denotes (toString n) n := by
  have hn := numeral_toString n
  rw [denotes_iff, trim_of_writes hn.writes]
  exact hn

/-- What a count is read as, by what it denotes. -/
theorem positiveInt_of_denotes (h : Denotes text n) (hl : n ≤ maxWord) :
    positiveInt text = if n = 0 then .error .zero else .ok n := by
  have hread : readNat maxWord (trim text.toList) = .ok n := readNat_eq_ok.2 ⟨denotes_iff.1 h, hl⟩
  rw [positiveInt, hread]
  cases n with
  | zero => rfl
  | succ n => rfl

theorem positiveInt_of_not_denotes (h : ∀ n, Denotes text n → maxWord < n) :
    positiveInt text = .error (.notACount text) := by
  rw [positiveInt]
  cases hread : readNat maxWord (trim text.toList) with
  | error e => rfl
  | ok n =>
    obtain ⟨hn, hle⟩ := readNat_eq_ok.1 hread
    have hlt := h n (denotes_iff.2 hn)
    omega

theorem lt_size_iff : n < UInt64.size ↔ n ≤ maxWord := Nat.lt_succ_iff

/-- A text denotes a number that fits a word, or does not. -/
theorem positiveInt_cases (text : String) :
    (∃ n, Denotes text n ∧ n ≤ maxWord ∧ positiveInt text = if n = 0 then .error .zero else .ok n) ∨
      (∀ n, Denotes text n → maxWord < n) ∧ positiveInt text = .error (.notACount text) := by
  by_cases h : ∃ n, Denotes text n ∧ n ≤ maxWord
  · obtain ⟨n, hn, hle⟩ := h
    exact .inl ⟨n, hn, hle, positiveInt_of_denotes hn hle⟩
  · have hlarge : ∀ n, Denotes text n → maxWord < n := fun n hn => Nat.lt_of_not_le fun hle => h ⟨n, hn, hle⟩
    exact .inr ⟨hlarge, positiveInt_of_not_denotes hlarge⟩

theorem positiveInt_eq_ok : positiveInt text = .ok n ↔ Denotes text n ∧ 1 ≤ n ∧ n < UInt64.size := by
  rw [lt_size_iff]
  constructor
  · intro h
    rcases positiveInt_cases text with ⟨m, hm, hle, heq⟩ | ⟨-, heq⟩
    · rw [heq] at h
      by_cases hzero : m = 0
      · rw [if_pos hzero] at h
        cases h
      · rw [if_neg hzero] at h
        cases h
        exact ⟨hm, by omega, hle⟩
    · rw [heq] at h
      cases h
  · rintro ⟨hn, hpos, hle⟩
    rw [positiveInt_of_denotes hn hle, if_neg (by omega)]

theorem positiveInt_eq_zero : positiveInt text = .error .zero ↔ Denotes text 0 := by
  constructor
  · intro h
    rcases positiveInt_cases text with ⟨m, hm, -, heq⟩ | ⟨-, heq⟩
    · by_cases hzero : m = 0
      · rwa [hzero] at hm
      · rw [heq, if_neg hzero] at h
        cases h
    · rw [heq] at h
      cases h
  · intro hn
    rw [positiveInt_of_denotes hn (Nat.zero_le _), if_pos rfl]

theorem positiveInt_eq_notACount :
    positiveInt text = .error (.notACount text) ↔ Senseless text ∨ ∃ n, Denotes text n ∧ UInt64.size ≤ n := by
  constructor
  · intro h
    rcases positiveInt_cases text with ⟨m, -, -, heq⟩ | ⟨hlarge, -⟩
    · rw [heq] at h
      split at h <;> cases h
    · by_cases hany : ∃ n, Denotes text n
      · obtain ⟨n, hn⟩ := hany
        exact .inr ⟨n, hn, hlarge n hn⟩
      · exact .inl (senseless_iff.2 fun n hn => hany ⟨n, hn⟩)
  · intro h
    apply positiveInt_of_not_denotes
    intro n hn
    rcases h with hnone | ⟨m, hm, hle⟩
    · exact absurd hn (senseless_iff.1 hnone n)
    · rw [hn.unique hm]
      exact hle

end Counts

/-- For every text: it is read as `n` exactly if, without the white space around it, it is a numeral of `n`, which is
positive and fits a word of 64 bits; it is refused for being zero exactly if it is a numeral of zero; and it is refused
with the whole text quoted exactly if it is a numeral of a larger number or none at all, which is to say that nothing,
a sign alone or a character out of place is left of it. The decimal text of a number is read as the number whenever that
is in range. -/
theorem positiveInt_exact (text : String) :
    (∀ n, positiveInt text = .ok n ↔ Denotes text n ∧ 1 ≤ n ∧ n < UInt64.size) ∧
      (positiveInt text = .error .zero ↔ Denotes text 0) ∧
      (positiveInt text = .error (.notACount text) ↔ Senseless text ∨ ∃ n, Denotes text n ∧ UInt64.size ≤ n) ∧
      (Senseless text ↔ ¬ ∃ n, Denotes text n) ∧
      CountError.zero.message = "Value must be greater than 0" ∧
      (CountError.notACount text).message = "'" ++ text ++ "' is not a valid positive integer" ∧
      ∀ n : Nat, positiveInt (toString n) = .ok n ↔ 1 ≤ n ∧ n < UInt64.size := by
  refine ⟨fun n => positiveInt_eq_ok, positiveInt_eq_zero, positiveInt_eq_notACount, ?_, rfl, rfl, ?_⟩
  · rw [senseless_iff, not_exists]
  · intro n
    rw [positiveInt_eq_ok, and_iff_right (denotes_toString n)]

/-- Leading zeros and white space do not count; the first number that does not fit is refused. -/
example : positiveInt "\u2003 +00018446744073709551615\n" = .ok 18446744073709551615 ∧
    positiveInt "0018446744073709551616" = .error (.notACount "0018446744073709551616") := ⟨rfl, rfl⟩

/-! ## Names -/

/-- A text of white space alone, or none. -/
def Blank (text : String) : Prop := ∀ c ∈ text.toList, isBlank c = true

section Names

variable {name other : String} {e e' : ValidationError}

/-- A name is refused for being blank before it is refused for its control characters. -/
theorem queueName_eq_error :
    queueName name = .error e ↔
      Blank name ∧ e = .blankName ∨ ¬ Blank name ∧ ¬ Visible name ∧ e = .controlInName name := by
  have hblank : trim name.toList = [] ↔ Blank name := trim_eq_nil
  have hcontrol : name.toList.any isControl = true ↔ ¬ Visible name := by simp [Visible]
  unfold queueName
  by_cases hb : Blank name
  · simp [hblank, hb, eq_comm]
  · by_cases hv : Visible name
    · simp [hblank, hcontrol, hb, hv]
    · simp [hblank, hcontrol, hb, hv, eq_comm]

/-- What a name holds is shown in the message in its escaped form only. -/
theorem visible_message (h : queueName name = .error e) : Visible e.message := by
  rcases queueName_eq_error.1 h with ⟨-, rfl⟩ | ⟨-, -, rfl⟩
  · decide
  · have hopen : Visible "queue name '" := by decide
    have hclose : Visible "' contains control characters" := by decide
    exact (hopen.append (visible_escape name)).append hclose

/-- The user can act on a refused setting, so the line has its message, and nothing of the operation. -/
theorem visible_userFacing {ε : Type} [Reportable ε] {refusal : ε} {words : String}
    (ha : Reportable.actionable refusal = true) (hw : Reportable.userMessage refusal = some words)
    (hv : Visible words) (context : String) : Visible (Report.userFacing refusal context) := by
  have hstart : Visible "Error: " := by decide
  rw [(Report.showsWords ha hw context).line]
  exact hstart.append hv

theorem message_controlInName (name : String) : (ValidationError.controlInName name).message =
    "queue name '" ++ escape name ++ "' contains control characters" := rfl

theorem message_controlInName_inj :
    (ValidationError.controlInName name).message = (ValidationError.controlInName other).message ↔ name = other := by
  rw [message_controlInName, message_controlInName, String.append_left_inj, String.append_right_inj, escape_inj]

theorem message_blankName_ne : ValidationError.blankName.message ≠ (ValidationError.controlInName name).message := by
  intro h
  have hchars : "queue name cannot be empty".toList =
      ("queue name '" ++ escape name ++ "' contains control characters").toList := congrArg String.toList h
  simp at hchars

/-- The message tells which name was refused, unless that was blank. -/
theorem message_eq_iff (h : queueName name = .error e) (h' : queueName other = .error e') :
    e.message = e'.message ↔ name = other ∨ Blank name ∧ Blank other := by
  rcases queueName_eq_error.1 h with ⟨hb, rfl⟩ | ⟨hb, -, rfl⟩ <;>
    rcases queueName_eq_error.1 h' with ⟨hb', rfl⟩ | ⟨hb', -, rfl⟩
  · exact iff_of_true rfl (.inr ⟨hb, hb'⟩)
  · refine iff_of_false message_blankName_ne ?_
    rintro (rfl | ⟨-, hother⟩)
    · exact hb' hb
    · exact hb' hother
  · refine iff_of_false message_blankName_ne.symm ?_
    rintro (rfl | ⟨hname, -⟩)
    · exact hb hb'
    · exact hb hname
  · rw [message_controlInName_inj]
    exact ⟨.inl, fun h => h.resolve_right fun hboth => hb hboth.1⟩

end Names

/-- For every text: it is accepted as a queue name exactly if it has a character that is not white space and no control
character. If it is refused, there is no control character in the message, nor in the line that ends the program, be it
for the refusal itself or for the queue that was not built because of it, and whatever operation failed. A name that is
not blank is shown in the message in such a way that it can be read back, and refused names have the same message only
if they are the same or both blank. -/
theorem refused_name_harmless (name : String) :
    (queueName name = .ok () ↔ (∃ c ∈ name.toList, isBlank c = false) ∧ ∀ c ∈ name.toList, isControl c = false) ∧
      ∀ e, queueName name = .error e →
        Visible e.message ∧
        (∀ context, Visible (Report.userFacing e context) ∧
          Visible (Report.userFacing (QueueError.ofValidation e) context)) ∧
        (¬ Blank name → ∃ shown, e.message = "queue name '" ++ shown ++ "' contains control characters" ∧
          unescape shown = some name) ∧
        ∀ other e', queueName other = .error e' →
          (e.message = e'.message ↔ name = other ∨ Blank name ∧ Blank other) := by
  refine ⟨queueName_eq_ok, fun e h => ?_⟩
  have hv := visible_message h
  refine ⟨hv, fun context => ⟨?_, ?_⟩, fun hb => ?_, fun other e' h' => message_eq_iff h h'⟩
  · exact visible_userFacing rfl rfl hv context
  · exact visible_userFacing rfl rfl hv context
  · obtain ⟨hblank, -⟩ | ⟨-, -, rfl⟩ := queueName_eq_error.1 h
    · exact absurd hblank hb
    · exact ⟨escape name, message_controlInName name, unescape_escape name⟩

/-- A name that begins with a mark, and one that spells out how that mark is shown. -/
theorem sample_refused_name_harmless :
    queueName "\u0301it's\x1b[31m" = .error (.controlInName "\u0301it's\x1b[31m") ∧
      queueName "\\u\x7b301\x7dit's\x1b[31m" = .error (.controlInName "\\u\x7b301\x7dit's\x1b[31m") ∧
      Visible (ValidationError.controlInName "\u0301it's\x1b[31m").message ∧
      (ValidationError.controlInName "\u0301it's\x1b[31m").message ≠
        (ValidationError.controlInName "\\u\x7b301\x7dit's\x1b[31m").message := by
  have hmark : queueName "\u0301it's\x1b[31m" = .error (.controlInName "\u0301it's\x1b[31m") := rfl
  have hspelt : queueName "\\u\x7b301\x7dit's\x1b[31m" = .error (.controlInName "\\u\x7b301\x7dit's\x1b[31m") := rfl
  have hinked : ¬ Blank "\u0301it's\x1b[31m" := fun hb => absurd (hb 'i' (by decide)) (by decide)
  obtain ⟨hvisible, -, -, hsame⟩ := (refused_name_harmless _).2 _ hmark
  refine ⟨hmark, hspelt, hvisible, fun hmessage => ?_⟩
  rcases (hsame _ _ hspelt).1 hmessage with hname | ⟨hb, -⟩
  · exact absurd hname (by decide)
  · exact hinked hb

end Conveyor.Validation
