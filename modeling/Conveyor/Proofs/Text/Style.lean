import Conveyor.Text.Style
import Mathlib.Data.String.Basic

/-!
# Text without its styles

`unstyled` deletes the escape sequences of a text. `Clears styled plain` says that it makes the one out of the other, in
front of whatever follows: this goes through concatenation (`Clears.append`), holds of a text without escape characters
and itself (`clears_self`), and of such a text in a style and without (`clears_apply`).
-/

namespace Conveyor.Text

/-! ## Texts that do not hold the separator -/

section Split

variable {sep : String} {e : Char} {es : List Char}

theorem splitOnAux_eq_singleton (hsep : sep.toList = e :: es) (before after : List Char) (h : e ∉ after) :
    String.splitOnAux (String.ofList (before ++ after)) sep 0 ⟨String.utf8Len before⟩ 0 [] =
      [String.ofList (before ++ after)] := by
  induction after generalizing before with
  | nil =>
    rw [String.splitOnAux, if_pos (by simp)]
    simpa using String.extract_of_valid [] before []
  | cons c cs ih =>
    have hend : ¬ String.Pos.Raw.atEnd (String.ofList (before ++ c :: cs)) ⟨String.utf8Len before⟩ = true := by
      rw [String.atEnd_of_valid]
      exact List.cons_ne_nil _ _
    have hget : String.Pos.Raw.get (String.ofList (before ++ c :: cs)) ⟨String.utf8Len before⟩ = c :=
      String.get_of_valid before (c :: cs)
    have hfirst : String.Pos.Raw.get sep 0 = e := by
      have hvalid := String.get_of_valid [] sep.toList
      rw [List.nil_append, String.ofList_toList, hsep] at hvalid
      exact hvalid
    have hne : ¬ (c == e) = true := by
      rw [beq_iff_eq]
      rintro rfl
      exact h List.mem_cons_self
    have hnext : (String.Pos.Raw.unoffsetBy ⟨String.utf8Len before⟩ 0).next (String.ofList (before ++ c :: cs)) =
        ⟨String.utf8Len (before ++ [c])⟩ := by
      have hsize : String.utf8Len (before ++ [c]) = String.utf8Len before + c.utf8Size := by simp
      rw [hsize]
      exact String.next_of_valid before c cs
    have hrest := ih (before ++ [c]) fun hm => h (List.mem_cons_of_mem _ hm)
    rw [List.append_assoc, List.singleton_append] at hrest
    rw [String.splitOnAux, if_neg hend, hget, hfirst, if_neg hne, hnext, hrest]

/-- A text without the first character of a separator is not split. -/
theorem splitOn_eq_singleton (hsep : sep.toList = e :: es) {text : String} (h : e ∉ text.toList) :
    text.splitOn sep = [text] := by
  have hne : ¬ (sep == "") = true := by
    rw [beq_iff_eq]
    rintro rfl
    cases hsep
  have haux := splitOnAux_eq_singleton hsep [] text.toList h
  rw [List.nil_append, String.ofList_toList] at haux
  rw [String.splitOn, if_neg hne]
  exact haux

end Split

/-! ## Deleting escape sequences -/

/-- The character that begins an escape sequence. -/
def esc : Char := '\x1b'

/-- Whether a character ends an escape sequence. -/
def isFinal (c : Char) : Bool := 0x40 ≤ c.toNat && c.toNat ≤ 0x7e

/-- The characters that are not in escape sequences; `inside` says whether one has begun. -/
def outside : Bool → List Char → List Char
  | _, [] => []
  | true, c :: cs => outside (!isFinal c) cs
  | false, c :: '[' :: cs => if c = esc then outside true cs else c :: outside false ('[' :: cs)
  | false, c :: cs => c :: outside false cs

/-- A text without its escape sequences. -/
def unstyled (text : String) : String := String.ofList (outside false text.toList)

section Outside

variable {cs rest : List Char}

theorem outside_cons {c : Char} (h : c ≠ esc) : outside false (c :: cs) = c :: outside false cs := by
  cases cs with
  | nil => rfl
  | cons d ds =>
    by_cases hd : d = '['
    · subst hd
      simp [outside, h]
    · simp [outside, hd]

theorem outside_append (h : esc ∉ cs) : outside false (cs ++ rest) = cs ++ outside false rest := by
  induction cs with
  | nil => rfl
  | cons c cs ih =>
    have hc : c ≠ esc := fun heq => h (heq ▸ List.mem_cons_self)
    rw [List.cons_append, outside_cons hc, ih fun hm => h (List.mem_cons_of_mem _ hm), List.cons_append]

/-- The parameters of a sequence belong to it. -/
theorem outside_parameters (h : ∀ c ∈ cs, isFinal c = false) : outside true (cs ++ rest) = outside true rest := by
  induction cs with
  | nil => rfl
  | cons c cs ih =>
    rw [List.cons_append, outside, h c List.mem_cons_self]
    exact ih fun x hx => h x (List.mem_cons_of_mem _ hx)

/-- A whole sequence is deleted. -/
theorem outside_sequence (h : ∀ c ∈ cs, isFinal c = false) :
    outside false (esc :: '[' :: cs ++ 'm' :: rest) = outside false rest := by
  have hfinal : outside true ('m' :: rest) = outside false rest := rfl
  rw [List.cons_append, List.cons_append, outside, if_pos rfl, outside_parameters h, hfinal]

end Outside

/-! ## Styled and plain texts -/

/-- Without its escape sequences `styled` is `plain`, whatever follows. -/
def Clears (styled plain : String) : Prop :=
  ∀ rest, outside false (styled.toList ++ rest) = plain.toList ++ outside false rest

section Clears

variable {a b p q text : String}

theorem Clears.append (ha : Clears a p) (hb : Clears b q) : Clears (a ++ b) (p ++ q) := by
  intro rest
  rw [String.toList_append, String.toList_append, List.append_assoc, List.append_assoc, ha, hb]

theorem Clears.unstyled (h : Clears a p) : unstyled a = p := by
  have hall := h []
  rw [List.append_nil, outside, List.append_nil] at hall
  rw [Text.unstyled, hall, String.ofList_toList]

theorem clears_self (h : esc ∉ text.toList) : Clears text text := fun _ => outside_append h

theorem Clears.join {α : Type} {f g : α → String} {xs : List α} (h : ∀ x ∈ xs, Clears (f x) (g x)) :
    Clears (String.join (xs.map f)) (String.join (xs.map g)) := by
  induction xs with
  | nil => exact fun _ => rfl
  | cons x xs ih =>
    intro rest
    have hx := h x List.mem_cons_self
    have hxs := ih fun y hy => h y (List.mem_cons_of_mem _ hy)
    simp only [List.map_cons, String.toList_join, List.flatMap_cons, List.append_assoc]
    simp only [Clears, String.toList_join] at hxs
    rw [hx, hxs]

theorem mem_intercalate {sep : List Char} {ls : List (List Char)} {c : Char} (h : c ∈ sep.intercalate ls) :
    c ∈ sep ∨ ∃ l ∈ ls, c ∈ l := by
  induction ls with
  | nil => cases h
  | cons l ls ih =>
    cases ls with
    | nil => exact .inr ⟨l, List.mem_cons_self, by simpa using h⟩
    | cons m ms =>
      rw [List.intercalate_cons_cons, List.append_assoc, List.mem_append, List.mem_append] at h
      rcases h with h | h | h
      · exact .inr ⟨l, List.mem_cons_self, h⟩
      · exact .inl h
      · rcases ih h with hsep | ⟨x, hx, hc⟩
        · exact .inl hsep
        · exact .inr ⟨x, List.mem_cons_of_mem _ hx, hc⟩

/-- What stands between the beginning and the end of the sequence of a style are digits and semicolons. -/
theorem exists_toList_start (s : Style) :
    ∃ cs, s.start.toList = esc :: '[' :: cs ++ ['m'] ∧ ∀ c ∈ cs, isFinal c = false := by
  have hcodes : ∀ code ∈ s.codes, code.toList.all (fun c => !isFinal c) = true := by
    obtain ⟨bold, dimmed, colour⟩ := s
    cases bold <;> cases dimmed <;> rcases colour with _ | colour <;> try cases colour
    all_goals decide
  refine ⟨(";".intercalate s.codes).toList, by simp [Style.start, esc], ?_⟩
  intro c hc
  rw [String.toList_intercalate] at hc
  rcases mem_intercalate hc with hsep | ⟨l, hl, hin⟩
  · rw [List.mem_singleton.1 hsep]
    rfl
  · obtain ⟨code, hcode, rfl⟩ := List.mem_map.1 hl
    simpa using List.all_eq_true.1 (hcodes code hcode) c hin

theorem clears_start (s : Style) : Clears s.start "" := by
  obtain ⟨cs, hstart, hcs⟩ := exists_toList_start s
  intro rest
  rw [hstart, List.append_assoc]
  exact outside_sequence hcs

theorem clears_reset : Clears Style.reset "" := by
  have hcode : ∀ c ∈ ['0'], isFinal c = false := List.forall_mem_singleton.2 rfl
  intro rest
  exact outside_sequence hcode

/-- A text without escape characters is the same in a style, apart from the escape sequences. -/
theorem clears_apply (s : Style) (enabled : Bool) (h : esc ∉ text.toList) : Clears (s.apply enabled text) text := by
  unfold Style.apply
  split
  · have hone : (Style.reset ++ s.start).intercalate (text.splitOn Style.reset) = text := by
      have hreset : Style.reset.toList = esc :: ['[', '0', 'm'] := rfl
      rw [splitOn_eq_singleton hreset h]
      rfl
    rw [hone]
    have hall := ((clears_start s).append (clears_self h)).append clears_reset
    rwa [String.empty_append, String.append_empty] at hall
  · exact clears_self h

end Clears

end Conveyor.Text
