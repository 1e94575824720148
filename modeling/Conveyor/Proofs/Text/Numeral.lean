import Conveyor.Validation

/-!
# Written integers

`Writes` says which texts write an integer: digits, behind a plus sign or not, or behind a minus sign if the integer is
negative. The readers of numerals agree with it in their ranges.

* `readNat_of_writes`, `readInt_of_writes`, `positiveInt_of_writes`: what a written integer is read as.
* `writes_toString`: every integer is written by its decimal text.
-/

namespace Conveyor.Text

/-! ## Digits -/

theorem digit?_of_isDigit {c : Char} (h : c.isDigit = true) : digit? c = some (c.toNat - '0'.toNat) := by
  have hbounds := Char.isDigit_iff_toNat.1 h
  exact if_pos ⟨Char.le_def.2 hbounds.1, Char.le_def.2 hbounds.2⟩

theorem digit?_bounds {c : Char} {d : Nat} (h : digit? c = some d) : 48 ≤ c.toNat ∧ c.toNat ≤ 57 := by
  unfold digit? at h
  split at h
  case isTrue hc => exact ⟨Char.le_def.1 hc.1, Char.le_def.1 hc.2⟩
  case isFalse => cases h

theorem isBlank_of_digit? {c : Char} {d : Nat} (h : digit? c = some d) : isBlank c = false := by
  obtain ⟨hlow, hhigh⟩ := digit?_bounds h
  simp [isBlank]
  omega

/-- A text with a value has digits only. -/
theorem digit?_of_digitsValue {acc n : Nat} {cs : List Char} (h : digitsValue acc cs = some n) :
    ∀ c ∈ cs, ∃ d, digit? c = some d := by
  induction cs generalizing acc with
  | nil => simp
  | cons c cs ih =>
    obtain ⟨d, hd, hrest⟩ := Option.bind_eq_some_iff.1 h
    intro x hx
    rcases List.mem_cons.1 hx with rfl | hx
    · exact ⟨d, hd⟩
    · exact ih hrest x hx

theorem digitsValue_eq {cs : List Char} (h : ∀ c ∈ cs, c.isDigit = true) (acc : Nat) :
    digitsValue acc cs = some (Nat.ofDigitChars 10 cs acc) := by
  induction cs generalizing acc with
  | nil => rfl
  | cons c cs ih =>
    rw [digitsValue, digit?_of_isDigit (h c List.mem_cons_self), Option.bind_some, Nat.ofDigitChars_cons,
      ih fun x hx => h x (List.mem_cons_of_mem _ hx), Nat.mul_comm]

/-- The decimal digits of a number are worth the number. -/
theorem digitsValue_toDigits (n : Nat) : digitsValue 0 (Nat.toDigits 10 n) = some n := by
  rw [digitsValue_eq fun c hc => Nat.isDigit_of_mem_toDigits (by omega) (by omega) hc, Nat.ofDigitChars_ten_toDigits]

/-! ## Written integers -/

/-- A text that writes an integer. -/
inductive Writes : List Char → Int → Prop where
  | bare {cs : List Char} {n : Nat} : cs ≠ [] → digitsValue 0 cs = some n → Writes cs n
  | plus {cs : List Char} {n : Nat} : cs ≠ [] → digitsValue 0 cs = some n → Writes ('+' :: cs) n
  | minus {cs : List Char} {n : Nat} : 0 < n → digitsValue 0 cs = some n → Writes ('-' :: cs) (-n)

section Readers

variable {cs : List Char} {n : Int} {limit : Nat}

theorem readNat_cons {c : Char} (h : c ≠ '+') :
    readNat limit (c :: cs) = readDigits limit .tooLarge 0 (c :: cs) := by
  unfold readNat
  split <;> simp_all

theorem readNat_plus (h : cs ≠ []) : readNat limit ('+' :: cs) = readDigits limit .tooLarge 0 cs := by
  unfold readNat
  split <;> simp_all

theorem readInt_cons {c : Char} (h : c ≠ '-') : readInt limit (c :: cs) = (readNat limit (c :: cs)).map Int.ofNat := by
  unfold readInt
  split <;> simp_all

theorem readInt_minus (h : cs ≠ []) :
    readInt limit ('-' :: cs) = (readDigits (limit + 1) .tooSmall 0 cs).map fun n => -(n : Int) := by
  unfold readInt
  split <;> simp_all

/-- Digits are read as their value; the first of them is no sign. -/
theorem readNat_of_digits {k : Nat} (hne : cs ≠ []) (h : digitsValue 0 cs = some k) (hk : k ≤ limit) :
    readNat limit cs = .ok k ∧ readInt limit cs = .ok k := by
  cases cs with
  | nil => exact absurd rfl hne
  | cons c cs =>
    obtain ⟨d, hd⟩ := digit?_of_digitsValue h c List.mem_cons_self
    obtain ⟨hlow, hhigh⟩ := digit?_bounds hd
    have hplus : c ≠ '+' := by rintro rfl; exact absurd hlow (by decide)
    have hminus : c ≠ '-' := by rintro rfl; exact absurd hlow (by decide)
    have hread : readNat limit (c :: cs) = .ok k := by
      rw [readNat_cons hplus]
      exact (readDigits_eq_ok (Nat.zero_le _)).2 ⟨h, hk⟩
    refine ⟨hread, ?_⟩
    rw [readInt_cons hminus, hread]
    rfl

theorem readNat_of_plus {k : Nat} (hne : cs ≠ []) (h : digitsValue 0 cs = some k) (hk : k ≤ limit) :
    readNat limit ('+' :: cs) = .ok k := by
  rw [readNat_plus hne]
  exact (readDigits_eq_ok (Nat.zero_le _)).2 ⟨h, hk⟩

/-- A number in range is read as itself. -/
theorem readNat_of_writes (h : Writes cs n) (hn : 0 ≤ n) (hl : n ≤ limit) : readNat limit cs = .ok n.toNat := by
  cases h with
  | bare hne hv => exact (readNat_of_digits hne hv (by omega)).1
  | plus hne hv => exact readNat_of_plus hne hv (by omega)
  | minus hpos => omega

/-- A negative number has a minus sign, and this is no digit. -/
theorem readNat_of_neg (h : Writes cs n) (hn : n < 0) : readNat limit cs = .error .invalidDigit := by
  cases h with
  | bare => omega
  | plus => omega
  | minus => rfl

theorem readInt_of_writes (h : Writes cs n) (hlow : -(limit + 1) ≤ n) (hhigh : n ≤ limit) :
    readInt limit cs = .ok n := by
  cases h with
  | bare hne hv => exact (readNat_of_digits hne hv (by omega)).2
  | @plus ds k hne hv =>
    have hread : readNat limit ('+' :: ds) = .ok k := readNat_of_plus hne hv (by omega)
    rw [readInt_cons (by decide), hread]
    rfl
  | @minus ds k hpos hv =>
    have hne : ds ≠ [] := by
      rintro rfl
      cases hv
      omega
    have hread : readDigits (limit + 1) .tooSmall 0 ds = .ok k := (readDigits_eq_ok (Nat.zero_le _)).2 ⟨hv, by omega⟩
    rw [readInt_minus hne, hread]
    rfl

/-- A written integer has no white space in it. -/
theorem isBlank_of_writes (h : Writes cs n) : ∀ c ∈ cs, isBlank c = false := by
  have hdigits : ∀ {ds : List Char} {k : Nat}, digitsValue 0 ds = some k → ∀ c ∈ ds, isBlank c = false := by
    intro ds k hv c hc
    obtain ⟨d, hd⟩ := digit?_of_digitsValue hv c hc
    exact isBlank_of_digit? hd
  cases h with
  | bare _ hv => exact hdigits hv
  | plus _ hv | minus _ hv => exact List.forall_mem_cons.2 ⟨by decide, hdigits hv⟩

theorem trim_of_writes (h : Writes cs n) : trim cs = cs := by
  have hkept : ∀ {ds : List Char}, (∀ c ∈ ds, isBlank c = false) → ds.dropWhile isBlank = ds := by
    intro ds hds
    cases ds with
    | nil => rfl
    | cons c ds => exact List.dropWhile_cons_of_neg (by simp [hds c List.mem_cons_self])
  have hcs := isBlank_of_writes h
  rw [trim, hkept hcs, hkept fun c hc => hcs c (List.mem_reverse.1 hc), List.reverse_reverse]

end Readers

/-- Every integer is written by its decimal text. -/
theorem writes_toString (n : Int) : Writes (toString n).toList n := by
  cases n with
  | ofNat k =>
    have htext : (toString (Int.ofNat k)).toList = Nat.toDigits 10 k := by
      rw [show toString (Int.ofNat k) = toString k from rfl, Nat.toString_eq_ofList_toDigits, String.toList_ofList]
    rw [htext]
    exact .bare Nat.toDigits_ne_nil (digitsValue_toDigits k)
  | negSucc k =>
    have htext : (toString (Int.negSucc k)).toList = '-' :: Nat.toDigits 10 (k + 1) := by
      rw [show toString (Int.negSucc k) = "-" ++ (k + 1).repr from rfl, Nat.repr_eq_ofList_toDigits]
      simp
    rw [htext]
    exact .minus (Nat.succ_pos k) (digitsValue_toDigits (k + 1))

end Conveyor.Text

namespace Conveyor.Validation

/-- A count is read as itself if it is positive, and refused if it is not. -/
theorem positiveInt_of_writes {text : String} {n : Int} (h : Text.Writes text.toList n) (hl : n ≤ Text.maxWord) :
    positiveInt text =
      if 0 < n then .ok n.toNat else if n = 0 then .error .zero else .error (.notACount text) := by
  rw [positiveInt, Text.trim_of_writes h]
  by_cases hneg : n < 0
  · rw [Text.readNat_of_neg h hneg, if_neg (by omega), if_neg (by omega)]
  · rw [Text.readNat_of_writes h (by omega) hl]
    by_cases hzero : n = 0
    · subst hzero
      rfl
    · rw [if_pos (by omega)]
      obtain ⟨k, hk⟩ : ∃ k, n.toNat = k + 1 := ⟨n.toNat - 1, by omega⟩
      rw [hk]
      rfl

end Conveyor.Validation
