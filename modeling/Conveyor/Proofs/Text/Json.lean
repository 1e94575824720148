import Conveyor.Text.Json

/-!
# Reading JSON back

A reader for JSON objects whose values are strings: `tokens` cuts a text into its tokens, with any white space between
them and any escape sequence in a string, and `object?` puts the tokens together. A string between quotation marks is
one token (`tokens_jsonQuote`), without control characters (`le_toNat_of_mem_jsonQuote`).

* `object?_written`: an object that was written is read back.
-/

namespace Conveyor.Text

/-! ## Tokens -/

inductive Token where
  | opening
  | closing
  | colon
  | comma
  | text (s : String)
deriving DecidableEq

/-- Where a reader stands. -/
inductive Reader where
  | between
  /-- In a string, of which code units were read, the last one first. -/
  | inside (units : List Nat)
  /-- After a backslash. -/
  | escape (units : List Nat)
  /-- After the first `4 - missing` digits of a code unit. -/
  | digits (units : List Nat) (missing value : Nat)

/-- White space between tokens. -/
def isGap (c : Char) : Bool := c = ' ' || c = '\t' || c = '\n' || c = '\r'

def mark? (c : Char) : Option Token :=
  if c = '\x7b' then some .opening
  else if c = '\x7d' then some .closing
  else if c = ':' then some .colon
  else if c = ',' then some .comma
  else none

/-- The character of an escape sequence of one letter. -/
def short? (c : Char) : Option Char :=
  if c = '"' ∨ c = '\\' ∨ c = '/' then some c
  else if c = 'b' then some '\x08'
  else if c = 'f' then some '\x0c'
  else if c = 'n' then some '\n'
  else if c = 'r' then some '\r'
  else if c = 't' then some '\t'
  else none

/-- The value of a hexadecimal digit, in either letter case. -/
def hexValue? (c : Char) : Option Nat :=
  if '0' ≤ c ∧ c ≤ '9' then some (c.toNat - 48)
  else if 'a' ≤ c ∧ c ≤ 'f' then some (c.toNat - 87)
  else if 'A' ≤ c ∧ c ≤ 'F' then some (c.toNat - 55)
  else none

def isHigh (u : Nat) : Bool := 0xd800 ≤ u && u < 0xdc00

def isLow (u : Nat) : Bool := 0xdc00 ≤ u && u < 0xe000

/-- The characters of code units; a character beyond the first plane may be a pair of them. -/
def decode : List Nat → Option (List Char)
  | [] => some []
  | [u] => if isHigh u || isLow u then none else some [Char.ofNat u]
  | u :: v :: us =>
    if isHigh u then
      if isLow v then (decode us).map (Char.ofNat (0x10000 + (u - 0xd800) * 0x400 + (v - 0xdc00)) :: ·) else none
    else if isLow u then none
    else (decode (v :: us)).map (Char.ofNat u :: ·)

/-- The tokens of a text. -/
def tokens : Reader → List Char → Option (List Token)
  | .between, [] => some []
  | .between, c :: cs =>
    if isGap c then tokens .between cs
    else if c = '"' then tokens (.inside []) cs
    else (mark? c).bind fun t => (tokens .between cs).map (t :: ·)
  | .inside us, c :: cs =>
    if c = '"' then (decode us.reverse).bind fun s => (tokens .between cs).map (.text (String.ofList s) :: ·)
    else if c = '\\' then tokens (.escape us) cs
    else if c.toNat < 32 then none
    else tokens (.inside (c.toNat :: us)) cs
  | .escape us, c :: cs =>
    if c = 'u' then tokens (.digits us 4 0) cs
    else (short? c).bind fun x => tokens (.inside (x.toNat :: us)) cs
  | .digits us missing value, c :: cs =>
    (hexValue? c).bind fun d =>
      if missing ≤ 1 then tokens (.inside ((16 * value + d) :: us)) cs
      else tokens (.digits us (missing - 1) (16 * value + d)) cs
  | _, [] => none

/-! ## Objects -/

/-- The members of an object up to its end. -/
def members? : List Token → Option (List (String × String))
  | [.text k, .colon, .text v, .closing] => some [(k, v)]
  | .text k :: .colon :: .text v :: .comma :: ts => (members? ts).map ((k, v) :: ·)
  | _ => none

/-- The object that a text describes, its members in their order. -/
def object? (text : String) : Option (List (String × String)) :=
  (tokens .between text.toList).bind fun
    | .opening :: ts => if ts = [.closing] then some [] else members? ts
    | _ => none

/-! ## Strings -/

section Strings

variable {cs rest : List Char} {us : List Nat}

theorem not_surrogate (c : Char) : isHigh c.toNat = false ∧ isLow c.toNat = false := by
  have hvalid : c.toNat < 0xd800 ∨ 0xdfff < c.toNat ∧ c.toNat < 0x110000 := c.valid
  simp only [isHigh, isLow, Bool.and_eq_false_iff, decide_eq_false_iff_not]
  omega

/-- Characters are their own code units. -/
theorem decode_toNat (cs : List Char) : decode (cs.map Char.toNat) = some cs := by
  induction cs with
  | nil => rfl
  | cons c cs ih =>
    obtain ⟨hhigh, hlow⟩ := not_surrogate c
    cases cs with
    | nil => simp [decode, hhigh, hlow]
    | cons d ds =>
      rw [List.map_cons, List.map_cons] at *
      rw [decode, hhigh, hlow, ih]
      simp

theorem hexValue?_lowHex {n : Nat} (h : n < 16) : hexValue? (lowHex n) = some n := by
  have hall : ∀ n : Fin 16, hexValue? (lowHex n) = some n.val := by decide
  exact hall ⟨n, h⟩

/-- A character with an escape sequence of one letter is read back. -/
theorem tokens_short {e x : Char} (hu : e ≠ 'u') (h : short? e = some x) :
    tokens (.inside us) ('\\' :: e :: rest) = tokens (.inside (x.toNat :: us)) rest := by
  simp [tokens, hu, h]

/-- A character whose code unit is written in digits is read back. -/
theorem tokens_digits {n : Nat} (h : n < 256) :
    tokens (.inside us) ('\\' :: 'u' :: '0' :: '0' :: lowHex (n / 16) :: lowHex (n % 16) :: rest) =
      tokens (.inside (n :: us)) rest := by
  have hzero : hexValue? '0' = some 0 := by decide
  have hhigh := hexValue?_lowHex (n := n / 16) (by omega)
  have hlow := hexValue?_lowHex (n := n % 16) (by omega)
  have hsum : 16 * (n / 16) + n % 16 = n := by omega
  simp [tokens, hzero, hhigh, hlow, hsum]

theorem tokens_plain {c : Char} (hquote : c ≠ '"') (hslash : c ≠ '\\') (h : 32 ≤ c.toNat) :
    tokens (.inside us) (c :: rest) = tokens (.inside (c.toNat :: us)) rest := by
  simp [tokens, hquote, hslash, Nat.not_lt.2 h]

/-- How a character of a string is written: by a letter, by the digits of its code unit, or as itself. -/
theorem jsonChar_cases (c : Char) :
    (∃ e, jsonChar c = ['\\', e] ∧ e ≠ 'u' ∧ 32 ≤ e.toNat ∧ short? e = some c) ∨
      (jsonChar c = ['\\', 'u', '0', '0', lowHex (c.toNat / 16), lowHex (c.toNat % 16)] ∧ c.toNat < 32) ∨
        (jsonChar c = [c] ∧ c ≠ '"' ∧ c ≠ '\\' ∧ 32 ≤ c.toNat) := by
  by_cases hquote : c = '"'
  · exact .inl ⟨'"', by subst hquote; decide⟩
  by_cases hslash : c = '\\'
  · exact .inl ⟨'\\', by subst hslash; decide⟩
  by_cases hcontrol : c.toNat < 32
  · by_cases hfeed : c = '\n'
    · exact .inl ⟨'n', by subst hfeed; decide⟩
    by_cases hreturn : c = '\r'
    · exact .inl ⟨'r', by subst hreturn; decide⟩
    by_cases htab : c = '\t'
    · exact .inl ⟨'t', by subst htab; decide⟩
    by_cases hback : c = '\x08'
    · exact .inl ⟨'b', by subst hback; decide⟩
    by_cases hform : c = '\x0c'
    · exact .inl ⟨'f', by subst hform; decide⟩
    right
    left
    have hback' : c.toNat ≠ 8 := fun h => hback (Char.toNat_inj.1 h)
    have hform' : c.toNat ≠ 12 := fun h => hform (Char.toNat_inj.1 h)
    simp [jsonChar, hquote, hslash, hcontrol, hfeed, hreturn, htab, hback', hform']
  · right
    right
    exact ⟨by simp [jsonChar, hquote, hslash, hcontrol], hquote, hslash, Nat.not_lt.1 hcontrol⟩

/-- Each character of a string is read back. -/
theorem tokens_jsonChar (c : Char) :
    tokens (.inside us) (jsonChar c ++ rest) = tokens (.inside (c.toNat :: us)) rest := by
  rcases jsonChar_cases c with ⟨e, hform, hu, -, he⟩ | ⟨hform, hlt⟩ | ⟨hform, hquote, hslash, hle⟩
  · rw [hform]
    exact tokens_short hu he
  · rw [hform]
    exact tokens_digits (by omega)
  · rw [hform]
    exact tokens_plain hquote hslash hle

theorem tokens_chars (s : List Char) :
    tokens (.inside us) (s.flatMap jsonChar ++ rest) = tokens (.inside ((s.map Char.toNat).reverse ++ us)) rest := by
  induction s generalizing us with
  | nil => rfl
  | cons c s ih => rw [List.flatMap_cons, List.append_assoc, tokens_jsonChar, ih]; simp

/-- A string between quotation marks is one token. -/
theorem tokens_jsonQuote (s : String) :
    tokens .between ((jsonQuote s).toList ++ rest) = (tokens .between rest).map (.text s :: ·) := by
  have hopen : ∀ cs, tokens .between ('"' :: cs) = tokens (.inside []) cs := fun _ => rfl
  have hclose : ∀ us, tokens (.inside us) ('"' :: rest) =
      (decode us.reverse).bind fun s => (tokens .between rest).map (.text (String.ofList s) :: ·) := fun _ => rfl
  rw [jsonQuote, String.toList_ofList, List.cons_append, List.cons_append, List.append_assoc, hopen, tokens_chars,
    List.singleton_append, hclose, List.append_nil, List.reverse_reverse, decode_toNat, Option.bind_some,
    String.ofList_toList]

theorem le_toNat_lowHex {n : Nat} (h : n < 16) : 32 ≤ (lowHex n).toNat := by
  have hall : ∀ n : Fin 16, 32 ≤ (lowHex n).toNat := by decide
  exact hall ⟨n, h⟩

theorem le_toNat_of_mem_jsonChar {c x : Char} (h : x ∈ jsonChar c) : 32 ≤ x.toNat := by
  rcases jsonChar_cases c with ⟨e, hform, -, hle, -⟩ | ⟨hform, hlt⟩ | ⟨hform, -, -, hle⟩
  · rw [hform, List.mem_cons, List.mem_singleton] at h
    rcases h with rfl | rfl
    · decide
    · exact hle
  · have hhigh := le_toNat_lowHex (n := c.toNat / 16) (by omega)
    have hlow := le_toNat_lowHex (n := c.toNat % 16) (by omega)
    rw [hform] at h
    simp only [List.mem_cons, List.not_mem_nil, or_false] at h
    rcases h with rfl | rfl | rfl | rfl | rfl | rfl
    · decide
    · decide
    · decide
    · decide
    · exact hhigh
    · exact hlow
  · rw [hform, List.mem_singleton] at h
    rwa [h]

theorem le_toNat_of_mem_jsonQuote {s : String} {c : Char} (h : c ∈ (jsonQuote s).toList) : 32 ≤ c.toNat := by
  rw [jsonQuote, String.toList_ofList, List.cons_append, List.mem_cons, List.mem_append, List.mem_singleton] at h
  rcases h with rfl | h | rfl
  · decide
  · obtain ⟨x, -, hc⟩ := List.mem_flatMap.1 h
    exact le_toNat_of_mem_jsonChar hc
  · decide

end Strings

/-! ## Written objects -/

/-- An object with string values on one line. -/
def written (es : List (String × String)) : String :=
  "\x7b" ++ ",".intercalate (es.map fun e => jsonQuote e.1 ++ ":" ++ jsonQuote e.2) ++ "\x7d"

/-- The characters of the members of an object, with commas between them. -/
def memberChars : List (String × String) → List Char
  | [] => []
  | [e] => (jsonQuote e.1).toList ++ ':' :: (jsonQuote e.2).toList
  | e :: f :: es => (jsonQuote e.1).toList ++ ':' :: ((jsonQuote e.2).toList ++ ',' :: memberChars (f :: es))

section Written

variable {e : String × String} {es : List (String × String)}

theorem toList_written : (written es).toList = '\x7b' :: (memberChars es ++ ['\x7d']) := by
  have hmembers : (",".intercalate (es.map fun e => jsonQuote e.1 ++ ":" ++ jsonQuote e.2)).toList = memberChars es := by
    rw [String.toList_intercalate]
    fun_induction memberChars es with
    | case1 => rfl
    | case2 e => simp
    | case3 e f es ih =>
      simp only [List.map_cons, List.intercalate_cons_cons] at ih ⊢
      rw [ih]
      simp
  rw [written, String.toList_append, String.toList_append, hmembers]
  rfl

/-- A key, a colon and a value are three tokens. -/
theorem tokens_member (rest : List Char) :
    tokens .between ((jsonQuote e.1).toList ++ ':' :: ((jsonQuote e.2).toList ++ rest)) =
      (tokens .between rest).map fun ts => .text e.1 :: .colon :: .text e.2 :: ts := by
  have hcolon : ∀ cs, tokens .between (':' :: cs) = (tokens .between cs).map (.colon :: ·) := fun _ => rfl
  rw [tokens_jsonQuote, hcolon, tokens_jsonQuote, Option.map_map, Option.map_map]
  rfl

/-- The members of an object are read back one after the other. -/
theorem members?_memberChars (e : String × String) (es : List (String × String)) :
    (tokens .between (memberChars (e :: es) ++ ['\x7d'])).bind members? = some (e :: es) := by
  induction es generalizing e with
  | nil =>
    rw [memberChars, List.append_assoc, List.cons_append, tokens_member]
    rfl
  | cons f es ih =>
    obtain ⟨ts, hts, hmembers⟩ := Option.bind_eq_some_iff.1 (ih f)
    have hcomma : ∀ cs, tokens .between (',' :: cs) = (tokens .between cs).map (.comma :: ·) := fun _ => rfl
    rw [memberChars, List.append_assoc, List.cons_append, List.append_assoc, tokens_member, List.cons_append, hcomma,
      hts]
    simp [members?, hmembers]

/-- An object that was written is read back. -/
theorem object?_written (es : List (String × String)) : object? (written es) = some es := by
  have hopening : ∀ cs, tokens .between ('\x7b' :: cs) = (tokens .between cs).map (.opening :: ·) := fun _ => rfl
  rw [object?, toList_written, hopening]
  cases es with
  | nil => rfl
  | cons e es =>
    obtain ⟨ts, hts, hmembers⟩ := Option.bind_eq_some_iff.1 (members?_memberChars e es)
    have hmore : ts ≠ [.closing] := by
      rintro rfl
      cases hmembers
    rw [hts]
    exact (if_neg hmore).trans hmembers

theorem le_toNat_of_mem_memberChars {c : Char} (h : c ∈ memberChars es) : 32 ≤ c.toNat := by
  fun_induction memberChars es with
  | case1 => cases h
  | case2 e =>
    rw [List.mem_append, List.mem_cons] at h
    rcases h with h | rfl | h
    · exact le_toNat_of_mem_jsonQuote h
    · decide
    · exact le_toNat_of_mem_jsonQuote h
  | case3 e f es ih =>
    rw [List.mem_append, List.mem_cons, List.mem_append, List.mem_cons] at h
    rcases h with h | rfl | h | rfl | h
    · exact le_toNat_of_mem_jsonQuote h
    · decide
    · exact le_toNat_of_mem_jsonQuote h
    · decide
    · exact ih h

/-- A written object has no control character below the blank in it. -/
theorem le_toNat_of_mem_written {c : Char} (h : c ∈ (written es).toList) : 32 ≤ c.toNat := by
  rw [toList_written, List.mem_cons, List.mem_append, List.mem_singleton] at h
  rcases h with rfl | h | rfl
  · decide
  · exact le_toNat_of_mem_memberChars h
  · decide

end Written

end Conveyor.Text
