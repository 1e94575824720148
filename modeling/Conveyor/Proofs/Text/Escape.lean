import Conveyor.Text.Escape
import Conveyor.Proofs.Text.Json

/-!
# Escaped text is harmless and can be read back

A character is shown by a backslash and a letter, by its code point in hexadecimal digits, or as itself (`Form`). Its
place in the text and the style decide which of the three it is (`form_escapeChar`), but not how it is read, so one
reader, `unescape`, serves all styles.

* `visible_escape`: no control character is left in an escaped text.
* `unescape_escape`: an escaped text is read back, so two texts are never shown alike (`escape_inj`).
-/

namespace Conveyor.Text

/-! ## Texts without control characters -/

/-- No character of a text is a control character. -/
def Visible (text : String) : Prop := ∀ c ∈ text.toList, isControl c = false

instance (text : String) : Decidable (Visible text) :=
  List.decidableBAll (fun c => isControl c = false) text.toList

section Visible

variable {a b : String}

theorem Visible.append (ha : Visible a) (hb : Visible b) : Visible (a ++ b) := by
  intro c hc
  rw [String.toList_append, List.mem_append] at hc
  exact hc.elim (ha c) (hb c)

theorem Visible.notMem {c : Char} (h : Visible a) (hc : isControl c = true) : c ∉ a.toList := by
  intro hin
  rw [h c hin] at hc
  cases hc

end Visible

/-! ## Hexadecimal digits -/

/-- What holds of each digit, and is carried over by one more digit at the end, holds of all numbers. -/
theorem hexDigits_induction {motive : Nat → List Char → Prop} (digit : ∀ d < 16, motive d [d.digitChar])
    (more : ∀ n d, d < 16 → motive n (hexDigits n) → motive (16 * n + d) (hexDigits n ++ [d.digitChar])) (n : Nat) :
    motive n (hexDigits n) := by
  induction n using Nat.strongRecOn with
  | ind n ih =>
    by_cases hlt : n < 16
    · rw [hexDigits, Nat.toDigits_of_lt_base hlt]
      exact digit n hlt
    · have hle : 16 ≤ n := Nat.not_lt.1 hlt
      have hstep := more (n / 16) (n % 16) (by omega) (ih (n / 16) (by omega))
      rw [Nat.div_add_mod] at hstep
      rw [hexDigits, Nat.toDigits_of_base_le (by decide) hle]
      exact hstep

theorem hexValue?_digitChar {d : Nat} (h : d < 16) : hexValue? d.digitChar = some d := by
  have hall : ∀ d : Fin 16, hexValue? d.val.digitChar = some d.val := by decide
  exact hall ⟨d, h⟩

theorem isControl_digitChar {d : Nat} (h : d < 16) : isControl d.digitChar = false := by
  have hall : ∀ d : Fin 16, isControl d.val.digitChar = false := by decide
  exact hall ⟨d, h⟩

theorem isControl_of_mem_hexDigits {n : Nat} : ∀ c ∈ hexDigits n, isControl c = false := by
  induction n using hexDigits_induction with
  | digit d hd => exact List.forall_mem_singleton.2 (isControl_digitChar hd)
  | more n d hd ih =>
    rw [List.forall_mem_append]
    exact ⟨ih, List.forall_mem_singleton.2 (isControl_digitChar hd)⟩

/-! ## Reading an escaped text -/

/-- Where a reader of an escaped text stands. -/
inductive Unescaping where
  | plain
  /-- After a backslash. -/
  | slash
  /-- After a backslash and the letter that announces a code point. -/
  | announced
  /-- Among the digits of a code point, which come to `value` so far. -/
  | point (value : Nat)

/-- The character whose escape is a backslash and this letter. -/
def lettered? (e : Char) : Option Char :=
  if e = '0' then some '\x00'
  else if e = 't' then some '\t'
  else if e = 'r' then some '\r'
  else if e = 'n' then some '\n'
  else if e = '\\' ∨ e = '"' ∨ e = '\'' then some e
  else none

/-- The characters of which an escaped text is made. -/
def unescapeChars : Unescaping → List Char → Option (List Char)
  | .plain, [] => some []
  | .plain, c :: cs =>
    if c = '\\' then unescapeChars .slash cs else (unescapeChars .plain cs).map (c :: ·)
  | .slash, e :: cs =>
    if e = 'u' then unescapeChars .announced cs
    else (lettered? e).bind fun c => (unescapeChars .plain cs).map (c :: ·)
  | .announced, c :: cs => if c = '\x7b' then unescapeChars (.point 0) cs else none
  | .point value, c :: cs =>
    if c = '\x7d' then (unescapeChars .plain cs).map (Char.ofNat value :: ·)
    else (hexValue? c).bind fun d => unescapeChars (.point (16 * value + d)) cs
  | _, [] => none

/-- The text that an escaped text shows, if it is one. -/
def unescape (shown : String) : Option String :=
  (unescapeChars .plain shown.toList).map String.ofList

/-! ## The forms of a character -/

/-- How a character can be shown. -/
inductive Form (c : Char) : List Char → Prop where
  | letter {e : Char} : e ≠ 'u' → isControl e = false → lettered? e = some c → Form c ['\\', e]
  | point : Form c (unicodeEscape c)
  | itself : c ≠ '\\' → isControl c = false → Form c [c]

section Form

variable {c : Char} {rest shown : List Char}

/-- Every style shows a character in one of the three forms. -/
theorem form_escapeChar (style : EscapeStyle) (c : Char) : Form c (escapeChar style c) := by
  -- the characters with a letter in every style, the two quotes, a mark, and then what prints and what does not
  fun_cases escapeChar style c with
  | case1 h => exact .letter (by decide) (by decide) (by rw [h]; rfl)
  | case2 _ h => exact .letter (by decide) (by decide) (by rw [h]; rfl)
  | case3 _ _ h => exact .letter (by decide) (by decide) (by rw [h]; rfl)
  | case4 _ _ _ h => exact .letter (by decide) (by decide) (by rw [h]; rfl)
  | case5 _ _ _ _ h => exact .letter (by decide) (by decide) (by rw [h]; rfl)
  | case6 _ _ _ _ _ h => exact .letter (by decide) (by decide) (by rw [h.1]; rfl)
  | case7 _ _ _ _ _ _ h => exact .letter (by decide) (by decide) (by rw [h.1]; rfl)
  | case8 => exact .point
  | case9 _ _ _ _ hslash _ _ _ hprints =>
    have hcontrol : isControl c = false := by
      rw [← Bool.not_eq_true]
      intro h
      rw [isPrintable_eq_false h] at hprints
      cases hprints
    exact .itself hslash hcontrol
  | case10 => exact .point

/-- The digits of a code point come to the code point. -/
theorem unescapeChars_hexDigits (n : Nat) (rest : List Char) :
    unescapeChars (.point 0) (hexDigits n ++ rest) = unescapeChars (.point n) rest := by
  have hdigit : ∀ value d rest, d < 16 →
      unescapeChars (.point value) (d.digitChar :: rest) = unescapeChars (.point (16 * value + d)) rest := by
    intro value d rest hd
    have hgoes : d.digitChar ≠ '\x7d' := Nat.digitChar_ne _ (by decide)
    rw [unescapeChars, if_neg hgoes, hexValue?_digitChar hd, Option.bind_some]
  induction n using hexDigits_induction generalizing rest with
  | digit d hd => simpa using hdigit 0 d rest hd
  | more n d hd ih => rw [List.append_assoc, ih, List.singleton_append, hdigit n d rest hd]

/-- In whichever form a character is shown, the same reader finds it. -/
theorem Form.unescapeChars_append (h : Form c shown) :
    unescapeChars .plain (shown ++ rest) = (unescapeChars .plain rest).map (c :: ·) := by
  cases h with
  | @letter e hu _ he =>
    have hslash : unescapeChars .plain ('\\' :: e :: rest) = unescapeChars .slash (e :: rest) := rfl
    rw [List.cons_append, List.singleton_append, hslash, unescapeChars, if_neg hu, he, Option.bind_some]
  | point =>
    have hopen : ∀ cs, unescapeChars .plain ('\\' :: 'u' :: '\x7b' :: cs) = unescapeChars (.point 0) cs := fun _ => rfl
    have hclose : ∀ n, unescapeChars (.point n) ('\x7d' :: rest) =
        (unescapeChars .plain rest).map (Char.ofNat n :: ·) := fun _ => rfl
    have hform : unicodeEscape c ++ rest = '\\' :: 'u' :: '\x7b' :: (hexDigits c.toNat ++ '\x7d' :: rest) := by
      simp [unicodeEscape]
    rw [hform, hopen, unescapeChars_hexDigits, hclose, Char.ofNat_toNat]
  | itself hslash _ => rw [List.singleton_append, unescapeChars, if_neg hslash]

theorem Form.isControl_of_mem (h : Form c shown) : ∀ x ∈ shown, isControl x = false := by
  cases h with
  | letter _ he _ => simpa using ⟨by decide, he⟩
  | point =>
    intro x hx
    simp only [unicodeEscape, List.cons_append, List.mem_cons, List.mem_append, List.not_mem_nil, or_false] at hx
    rcases hx with rfl | rfl | rfl | hx | rfl
    · decide
    · decide
    · decide
    · exact isControl_of_mem_hexDigits x hx
    · decide
  | itself _ hc => exact List.forall_mem_singleton.2 hc

end Form

/-! ## Whole texts -/

/-- Characters shown one after the other, each in some form. -/
inductive Forms : List Char → List Char → Prop where
  | nil : Forms [] []
  | cons {c : Char} {cs first shown : List Char} : Form c first → Forms cs shown → Forms (c :: cs) (first ++ shown)

section Forms

variable {cs shown : List Char} {s t : String}

theorem forms_flatMap (style : EscapeStyle) (cs : List Char) : Forms cs (cs.flatMap (escapeChar style)) := by
  induction cs with
  | nil => exact .nil
  | cons c cs ih => exact .cons (form_escapeChar style c) ih

/-- The first character has a style of its own. -/
theorem forms_escapeChars (cs : List Char) : Forms cs (escapeChars cs) := by
  cases cs with
  | nil => exact .nil
  | cons c cs => exact .cons (form_escapeChar leadingStyle c) (forms_flatMap bareStyle cs)

theorem Forms.unescapeChars_eq (h : Forms cs shown) : unescapeChars .plain shown = some cs := by
  induction h with
  | nil => rfl
  | cons hfirst _ ih => rw [hfirst.unescapeChars_append, ih, Option.map_some]

theorem Forms.isControl_of_mem (h : Forms cs shown) : ∀ x ∈ shown, isControl x = false := by
  induction h with
  | nil => exact fun _ hx => nomatch hx
  | cons hfirst _ ih => exact List.forall_mem_append.2 ⟨hfirst.isControl_of_mem, ih⟩

/-- An escaped text is read back. -/
theorem unescape_escape (s : String) : unescape (escape s) = some s := by
  have hread := (forms_escapeChars s.toList).unescapeChars_eq
  rw [unescape, escape, String.toList_ofList, hread, Option.map_some, String.ofList_toList]

/-- Two texts are never shown alike. -/
theorem escape_inj : escape s = escape t ↔ s = t := by
  constructor
  · intro h
    have hread := congrArg unescape h
    rw [unescape_escape, unescape_escape] at hread
    exact Option.some.inj hread
  · exact congrArg escape

/-- No control character is left in an escaped text. -/
theorem visible_escape (s : String) : Visible (escape s) := by
  intro c hc
  rw [escape, String.toList_ofList] at hc
  exact (forms_escapeChars s.toList).isControl_of_mem c hc

end Forms

end Conveyor.Text
