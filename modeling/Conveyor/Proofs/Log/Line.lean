import Conveyor.Log.Format
import Conveyor.Proofs.Text.Json

/-!
# What a JSON log line says

A target is a path in another spelling: `Segments` cuts it at each pair of colons, from left to right and without
overlap, and slashes take their place (`slashes_eq_of_segments`). `PathOf` is the path of a target, and `Located` the
place that a line shows, with the number of the line if there is one.

* `json_line_decodes`: a line in JSON is one object on one line, from which the record can be read back.
-/

namespace Conveyor.Log

open Text

/-! ## Pairs of colons -/

/-- The parts of a text between its pairs of colons, the first pair being the one that ends first, and so on in what
follows it. -/
inductive Segments : List Char → List (List Char) → Prop where
  | last {cs : List Char} : ¬ [':', ':'] <:+: cs → Segments cs [cs]
  | cons {cs rest : List Char} {parts : List (List Char)} : ¬ [':', ':'] <:+: cs ++ [':'] → Segments rest parts →
      Segments (cs ++ ':' :: ':' :: rest) (cs :: parts)

section Segments

variable {cs ds : List Char} {parts : List (List Char)} {c : Char}

theorem slashes_cons (h : ¬ [':', ':'] <+: c :: cs) : Record.slashes (c :: cs) = c :: Record.slashes cs := by
  rw [Record.slashes]
  rintro ds rfl rfl
  exact h ⟨ds, rfl⟩

/-- Whether a text begins with a pair of colons shows in its first two characters. -/
theorem not_prefix_append (h : ¬ [':', ':'] <+: cs) (hl : 2 ≤ cs.length) : ¬ [':', ':'] <+: cs ++ ds := by
  intro hpre
  exact h (List.prefix_of_prefix_length_le hpre (List.prefix_append cs ds) hl)

/-- What is before the first pair of colons stays as it is. -/
theorem slashes_append (h : ¬ [':', ':'] <:+: cs ++ [':']) :
    Record.slashes (cs ++ ':' :: ':' :: ds) = cs ++ '/' :: Record.slashes ds := by
  induction cs with
  | nil => rfl
  | cons c cs ih =>
    rw [List.cons_append, List.infix_cons_iff, not_or] at h
    obtain ⟨hpre, htail⟩ := h
    have hnext : ¬ [':', ':'] <+: c :: (cs ++ ':' :: ':' :: ds) := by
      have happend : ¬ [':', ':'] <+: c :: (cs ++ [':']) ++ ':' :: ds := not_prefix_append hpre (by simp)
      simpa using happend
    rw [List.cons_append, slashes_cons hnext, ih htail, List.cons_append]

theorem slashes_of_not_infix (h : ¬ [':', ':'] <:+: cs) : Record.slashes cs = cs := by
  induction cs with
  | nil => rfl
  | cons c cs ih =>
    rw [List.infix_cons_iff, not_or] at h
    rw [slashes_cons h.1, ih h.2]

theorem Segments.ne_nil (h : Segments cs parts) : parts ≠ [] := by
  cases h <;> exact List.cons_ne_nil _ _

/-- A slash takes the place of each pair of colons. -/
theorem slashes_eq_of_segments (h : Segments cs parts) : Record.slashes cs = ['/'].intercalate parts := by
  induction h with
  | last hnone => simpa using slashes_of_not_infix hnone
  | @cons cs rest parts hfirst hrest ih =>
    obtain ⟨p, ps, rfl⟩ := List.exists_cons_of_ne_nil hrest.ne_nil
    rw [slashes_append hfirst, ih, List.intercalate_cons_cons, List.append_assoc, List.singleton_append]

/-- A character in front that makes no new pair of colons belongs to the first part. -/
theorem Segments.push (h : Segments cs parts) (hpre : ¬ [':', ':'] <+: c :: cs) : ∃ parts', Segments (c :: cs) parts' := by
  cases h with
  | last hnone =>
    refine ⟨_, .last ?_⟩
    rw [List.infix_cons_iff, not_or]
    exact ⟨hpre, hnone⟩
  | @cons first rest parts hfirst hrest =>
    have hnone : ¬ [':', ':'] <:+: (c :: first) ++ [':'] := by
      rw [List.cons_append, List.infix_cons_iff, not_or]
      refine ⟨fun hshort => hpre ?_, hfirst⟩
      obtain ⟨more, hmore⟩ := hshort
      exact ⟨more ++ ':' :: rest, by simpa using congrArg (· ++ ':' :: rest) hmore⟩
    exact ⟨_, .cons hnone hrest⟩

/-- Every text has its parts. -/
theorem exists_segments (cs : List Char) : ∃ parts, Segments cs parts := by
  fun_induction Record.slashes cs with
  | case1 cs ih =>
    obtain ⟨parts, hparts⟩ := ih
    have hfirst : ¬ [':', ':'] <:+: [] ++ [':'] := by decide
    exact ⟨[] :: parts, .cons hfirst hparts⟩
  | case2 c cs hne ih =>
    obtain ⟨parts, hparts⟩ := ih
    apply hparts.push
    rintro ⟨ds, hds⟩
    obtain ⟨hc, hcs⟩ := List.cons.inj hds
    exact hne ds hc.symm hcs.symm
  | case3 => exact ⟨[[]], .last (by decide)⟩

end Segments

/-! ## Targets -/

/-- The path of a target: one of the program's own is the path of a file. -/
inductive PathOf : List Char → List Char → Prop where
  | own {cs : List Char} {parts : List (List Char)} : Segments cs parts →
      PathOf ("pcqueue::".toList ++ cs) (['/'].intercalate parts ++ ".rs".toList)
  | other {cs : List Char} {parts : List (List Char)} : ¬ "pcqueue::".toList <+: cs → Segments cs parts →
      PathOf cs (['/'].intercalate parts)

/-- The place that a line shows: the path of the target, and the number of the line if there is one. -/
def Located (target : String) (line : Option Nat) (place : String) : Prop :=
  ∃ path, PathOf target.toList path ∧
    place.toList = path ++ (line.map fun n => ':' :: (toString n).toList).getD []

section Targets

variable {target : String} {cs path : List Char}

theorem path_own (h : target.toList = "pcqueue::".toList ++ cs) :
    (Record.path target).toList = Record.slashes cs ++ ".rs".toList := by
  have hown : Record.ownTarget.toList.isPrefixOf target.toList = true := List.isPrefixOf_iff_prefix.2 ⟨cs, h.symm⟩
  have hdrop : target.toList.drop Record.ownTarget.length = cs := by
    rw [h, ← String.length_toList]
    exact List.drop_left
  have hpath : Record.path target =
      String.ofList (Record.slashes (target.toList.drop Record.ownTarget.length)) ++ ".rs" := if_pos hown
  rw [hpath, hdrop, String.toList_append, String.toList_ofList]

theorem path_other (h : ¬ "pcqueue::".toList <+: target.toList) :
    (Record.path target).toList = Record.slashes target.toList := by
  have hother : ¬ Record.ownTarget.toList.isPrefixOf target.toList = true :=
    fun hown => h (List.isPrefixOf_iff_prefix.1 hown)
  have hpath : Record.path target = String.ofList (Record.slashes target.toList) := if_neg hother
  rw [hpath, String.toList_ofList]

theorem pathOf_iff : PathOf target.toList path ↔ path = (Record.path target).toList := by
  constructor
  · intro h
    generalize hcs : target.toList = ts at h
    cases h with
    | own hparts => rw [path_own hcs, slashes_eq_of_segments hparts]
    | other hpre hparts =>
      subst hcs
      rw [path_other hpre, slashes_eq_of_segments hparts]
  · rintro rfl
    by_cases hpre : "pcqueue::".toList <+: target.toList
    · obtain ⟨cs, hcs⟩ := hpre
      obtain ⟨parts, hparts⟩ := exists_segments cs
      rw [path_own hcs.symm, slashes_eq_of_segments hparts, ← hcs]
      exact .own hparts
    · obtain ⟨parts, hparts⟩ := exists_segments target.toList
      rw [path_other hpre, slashes_eq_of_segments hparts]
      exact .other hpre hparts

theorem located_iff {line : Option Nat} {place : String} :
    Located target line place ↔ place = Record.location target line := by
  have hlocation : (Record.location target line).toList =
      (Record.path target).toList ++ (line.map fun n => ':' :: (toString n).toList).getD [] := by
    cases line <;> simp [Record.location]
  simp only [Located, pathOf_iff, exists_eq_left]
  rw [← hlocation, String.toList_inj]

end Targets

/-! ## Lines -/

theorem abbreviation_injective {l m : Level} : l.abbreviation = m.abbreviation ↔ l = m := by
  cases l <;> cases m <;> decide

theorem json_eq_written (r : Record) (stamp : String) : r.json stamp = written (r.entries stamp) := rfl

/-- For every record, whatever characters its texts are made of: the line in JSON has no character below the blank in
it, and is an object with five members: a text that tells the level, the message, the place, which is the only one that
the target and the number of the line make, the name of the thread, and the time. -/
theorem json_line_decodes (colour : Bool) (stamp : Stamp) (r : Record) :
    (∀ c ∈ (Format.json.render colour stamp r).toList, 0x20 ≤ c.toNat) ∧
      ∃ level target,
        object? (Format.json.render colour stamp r) =
          some [("level", level), ("message", r.message), ("target", target),
            ("thread", r.thread.getD "<unnamed>"), ("timestamp", stamp.compact ++ "Z")] ∧
        (∀ l : Level, l.abbreviation = level ↔ l = r.level) ∧
        ∀ place, Located r.target r.line place ↔ place = target := by
  have hline : Format.json.render colour stamp r = written (r.entries (stamp.compact ++ "Z")) := json_eq_written r _
  rw [hline]
  refine ⟨fun c hc => le_toNat_of_mem_written hc, r.level.abbreviation, Record.location r.target r.line,
    object?_written _, ?_, ?_⟩
  · intro l
    exact abbreviation_injective
  · intro place
    exact located_iff

end Conveyor.Log
