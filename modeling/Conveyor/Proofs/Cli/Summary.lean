import Conveyor.Cli.Summary
import Conveyor.Proofs.Text.Escape
import Conveyor.Proofs.Text.Style
import Conveyor.Proofs.Validation

/-!
# What a summary says

A summary without colours consists of lines without control characters (`visible_lines`), so it can be cut into its
lines again. The row of a counter is its label, padded to one width, and its value (`find?_row`). A summary with
colours differs by escape sequences only (`clears_format`).

* `summary_legible`: with colours or without, a summary of a queue with a proper name says the same, and what it says
  can be read off it.
-/

namespace Conveyor.Cli.Summary

open Text

/-! ## Texts without control characters -/

section Visible

theorem isControl_of_isDigit {c : Char} (h : c.isDigit = true) : isControl c = false := by
  obtain ⟨hlow, hhigh⟩ := Char.isDigit_iff_toNat.1 h
  have hzero : '0'.toNat = 48 := rfl
  have hnine : '9'.toNat = 57 := rfl
  simp only [isControl, Bool.or_eq_false_iff, Bool.and_eq_false_iff, decide_eq_false_iff_not]
  omega

theorem visible_toString (n : Nat) : Visible (toString n) := by
  intro c hc
  rw [Nat.toString_eq_ofList_toDigits, String.toList_ofList] at hc
  exact isControl_of_isDigit (Nat.isDigit_of_mem_toDigits (by omega) (by omega) hc)

theorem visible_hundredths (num den : Nat) : Visible (Duration.hundredths num den) := by
  have hpoint : Visible "." := by decide
  unfold Duration.hundredths
  apply Visible.append ((visible_toString _).append hpoint)
  split
  · have hzero : Visible "0" := by decide
    exact hzero.append (visible_toString _)
  · exact visible_toString _

theorem visible_duration (d : Duration) : Visible d.text := by
  apply (visible_hundredths _ _).append
  unfold Duration.unit
  split
  · exact (by decide : Visible "s")
  split
  · exact (by decide : Visible "ms")
  split
  · exact (by decide : Visible "µs")
  · exact (by decide : Visible "ns")

theorem visible_name {name : String} (h : Validation.queueName name = .ok ()) : Visible name :=
  (Validation.queueName_eq_ok.1 h).2

end Visible

/-! ## Lines -/

/-- The lines of a summary without colours. -/
def plain (name : String) (stats : Queue.Stats) (outcome : Outcome) (elapsed : Duration) : List String :=
  lines id id id name stats outcome elapsed.text

section Lines

variable {name : String} {stats : Queue.Stats} {outcome : Outcome} {elapsed : Duration} {colour enabled : Bool}

theorem format_plain :
    format false enabled name stats outcome elapsed =
      String.join ((plain name stats outcome elapsed).map (· ++ "\n")) := by
  have hid : ∀ s : Style, s.apply (false && enabled) = id := by
    intro s
    funext text
    simp [Style.apply]
  simp only [format, styledLines, hid, plain]

theorem visible_label (outcome : Outcome) : Visible outcome.label := by
  cases outcome <;> decide

theorem visible_row {r : String × String} (hr : r ∈ rows stats elapsed.text) : Visible (padded r.1) ∧ Visible r.2 := by
  rcases List.mem_append.1 hr with hr | hr
  · obtain ⟨k, hk, rfl⟩ := List.mem_map.1 hr
    have hlabels : ∀ k ∈ counterRows, Visible (padded k.1) := by decide
    exact ⟨hlabels k hk, visible_toString _⟩
  · rw [List.mem_singleton.1 hr]
    exact ⟨(by decide : Visible (padded "elapsed")), visible_duration elapsed⟩

theorem visible_title (hn : Visible name) : Visible ("Queue '" ++ name ++ "'") :=
  ((by decide : Visible "Queue '").append hn).append (by decide : Visible "'")

theorem visible_lines (hn : Visible name) : ∀ l ∈ plain name stats outcome elapsed, Visible l := by
  have hblank : Visible " " := by decide
  have hblanks : Visible "  " := by decide
  intro l hl
  rcases List.mem_cons.1 hl with rfl | hl
  · exact ((visible_title hn).append hblank).append (visible_label outcome)
  · obtain ⟨r, hr, rfl⟩ := List.mem_map.1 hl
    obtain ⟨hlabel, hvalue⟩ := visible_row hr
    exact ((hblanks.append hlabel).append hblank).append hvalue

/-- With colours a summary is what it is without, apart from escape sequences. -/
theorem clears_format (hn : Visible name) :
    Clears (format colour enabled name stats outcome elapsed) (format false enabled name stats outcome elapsed) := by
  have hkept : ∀ {text : String}, Visible text → Clears text text := fun h => clears_self (h.notMem (by decide))
  have hpainted : ∀ (s : Style) {text : String}, Visible text → Clears (s.apply (colour && enabled) text) text :=
    fun s _ h => clears_apply s _ (h.notMem (by decide))
  have hblank : Clears " " " " := hkept (by decide)
  have hfeed : Clears "\n" "\n" := clears_self (by decide)
  have hrows : ∀ r ∈ rows stats elapsed.text,
      Clears ("  " ++ Style.apply { colour := some .blue } (colour && enabled) (padded r.1) ++ " " ++ r.2 ++ "\n")
        ("  " ++ padded r.1 ++ " " ++ r.2 ++ "\n") := by
    intro r hr
    obtain ⟨hlabel, hvalue⟩ := visible_row hr
    exact ((((hkept (by decide)).append (hpainted _ hlabel)).append hblank).append (hkept hvalue)).append hfeed
  have htitle := ((hpainted { colour := some .cyan } (visible_title hn)).append hblank).append
    (hpainted outcome.style (visible_label outcome))
  rw [format_plain, format, styledLines, plain, lines, lines]
  simp only [List.map_cons, List.map_map, String.join_cons]
  exact (htitle.append hfeed).append (Clears.join hrows)

/-- A text of lines is cut into them. -/
theorem splitOn_join {ls : List String} (h : ∀ l ∈ ls, '\n' ∉ l.toList) :
    (String.join (ls.map (· ++ "\n"))).toList.splitOn '\n' = ls.map String.toList ++ [[]] := by
  have hjoined : (String.join (ls.map (· ++ "\n"))).toList = ['\n'].intercalate (ls.map String.toList ++ [[]]) := by
    induction ls with
    | nil => rfl
    | cons l ls ih =>
      have hrest := ih fun m hm => h m (List.mem_cons_of_mem _ hm)
      rw [List.map_cons, String.join_cons, String.toList_append, hrest, List.map_cons, List.cons_append]
      cases ls <;> simp [List.intercalate_cons_cons]
  rw [hjoined]
  apply List.splitOn_intercalate
  · intro cs hcs
    rcases List.mem_append.1 hcs with hcs | hcs
    · obtain ⟨l, hl, rfl⟩ := List.mem_map.1 hcs
      exact h l hl
    · rw [List.mem_singleton.1 hcs]
      exact List.not_mem_nil
  · simp

theorem splitOn_format (hn : Visible name) :
    (format false enabled name stats outcome elapsed).toList.splitOn '\n' =
      (plain name stats outcome elapsed).map String.toList ++ [[]] := by
  rw [format_plain]
  exact splitOn_join fun l hl => (visible_lines hn l hl).notMem (by decide)

theorem esc_notMem_format (hn : Visible name) : esc ∉ (format false enabled name stats outcome elapsed).toList := by
  rw [format_plain, String.toList_join]
  intro hin
  obtain ⟨text, htext, hesc⟩ := List.mem_flatMap.1 hin
  obtain ⟨l, hl, rfl⟩ := List.mem_map.1 htext
  have hline : esc ∉ l.toList := (visible_lines hn l hl).notMem (by decide)
  have hfeed : esc ∉ "\n".toList := by decide
  rw [String.toList_append, List.mem_append] at hesc
  exact hesc.elim hline hfeed

end Lines

/-! ## Rows -/

/-- The column in which the values begin. -/
def valueColumn : Nat := 13

/-- The label of a counter. -/
def rowLabel : Queue.Counter → String
  | .enqueued => "enqueued"
  | .processed => "processed"
  | .failed => "failed"
  | .rejected => "rejected"
  | .abandoned => "abandoned"

/-- How the row of a label begins. -/
def beginning (label : String) : List Char := ("  " ++ label ++ " ").toList

/-- The number in the row of a label: what stands from the column of the values on, in the first line that begins so. -/
def readRow (label text : String) : Option Nat :=
  ((text.toList.splitOn '\n').find? (beginning label).isPrefixOf).bind fun l => digitsValue 0 (l.drop valueColumn)

/-- Some line of a text is a label and a value, with nothing but blanks around the label, and the value in its column. -/
def Shows (text label value : String) : Prop :=
  ∃ n, 2 + label.length + n = valueColumn ∧
    ("  " ++ label).toList ++ List.replicate n ' ' ++ value.toList ∈ text.toList.splitOn '\n'

section Rows

variable {name : String} {stats : Queue.Stats} {outcome : Outcome} {elapsed : Duration} {enabled : Bool}

/-- What stands before the value in a row. -/
def rowStart (label : String) : String := "  " ++ padded label ++ " "

theorem isPrefixOf_append {p q v : List Char} (h : p.length ≤ q.length) :
    p.isPrefixOf (q ++ v) = p.isPrefixOf q := by
  induction p generalizing q with
  | nil => simp
  | cons a p ih =>
    cases q with
    | nil => simp at h
    | cons b q =>
      have hle : p.length ≤ q.length := by simpa using h
      simp [List.isPrefixOf, ih hle]

/-- The labels of the rows differ in their beginnings, so each finds its own row only. -/
theorem isPrefixOf_rowStart (k : Queue.Counter) {r : String × String} (hr : r ∈ rows stats elapsed.text) :
    (beginning (rowLabel k)).isPrefixOf (rowStart r.1 ++ r.2).toList = (r.1 == rowLabel k) := by
  have hlabel : r.1 ∈ counterRows.map Prod.fst ++ ["elapsed"] := by
    rcases List.mem_append.1 hr with hr | hr
    · obtain ⟨c, hc, rfl⟩ := List.mem_map.1 hr
      exact List.mem_append_left _ (List.mem_map_of_mem hc)
    · rw [List.mem_singleton.1 hr]
      exact List.mem_append_right _ List.mem_cons_self
  have hlength : ∀ label ∈ counterRows.map Prod.fst ++ ["elapsed"],
      (beginning (rowLabel k)).length ≤ (rowStart label).toList.length := by
    cases k <;> decide
  have hstart : ∀ label ∈ counterRows.map Prod.fst ++ ["elapsed"],
      (beginning (rowLabel k)).isPrefixOf (rowStart label).toList = (label == rowLabel k) := by
    cases k <;> decide
  rw [String.toList_append, isPrefixOf_append (hlength _ hlabel), hstart _ hlabel]

theorem find?_row (k : Queue.Counter) :
    ((plain name stats outcome elapsed).map String.toList ++ [[]]).find? (beginning (rowLabel k)).isPrefixOf =
      some (rowStart (rowLabel k) ++ toString (stats.toCounters.get k)).toList := by
  have hrows : ((rows stats elapsed.text).map fun r => (rowStart r.1 ++ r.2).toList).find?
      (beginning (rowLabel k)).isPrefixOf =
        some (rowStart (rowLabel k) ++ toString (stats.toCounters.get k)).toList := by
    have hlabels : (rows stats elapsed.text).find? (fun r => r.1 == rowLabel k) =
        some (rowLabel k, toString (stats.toCounters.get k)) := by
      cases k <;> rfl
    have hfilter : (rows stats elapsed.text).filter
        ((beginning (rowLabel k)).isPrefixOf ∘ fun r => (rowStart r.1 ++ r.2).toList) =
          (rows stats elapsed.text).filter fun r => r.1 == rowLabel k :=
      List.filter_congr fun r hr => isPrefixOf_rowStart k hr
    rw [List.find?_map, ← List.head?_filter, hfilter, List.head?_filter, hlabels]
    rfl
  have htitle : ¬ (beginning (rowLabel k)).isPrefixOf ("Queue '" ++ name ++ "'" ++ " " ++ outcome.label).toList = true := by
    simp [beginning]
  have hlines : (plain name stats outcome elapsed).map String.toList =
      ("Queue '" ++ name ++ "'" ++ " " ++ outcome.label).toList ::
        (rows stats elapsed.text).map fun r => (rowStart r.1 ++ r.2).toList := by
    simp [plain, lines, rowStart]
  rw [hlines, List.cons_append, List.find?_cons_of_neg htitle, List.find?_append, hrows]
  rfl

/-- What stands before the value in the row of a counter fills the columns up to it. -/
theorem exists_rowStart (k : Queue.Counter) :
    ∃ n, 2 + (rowLabel k).length + n = valueColumn ∧
      (rowStart (rowLabel k)).toList = ("  " ++ rowLabel k).toList ++ List.replicate n ' ' := by
  refine ⟨valueColumn - 2 - (rowLabel k).length, ?_⟩
  cases k <;> decide

theorem length_rowStart (k : Queue.Counter) : (rowStart (rowLabel k)).toList.length = valueColumn := by
  cases k <;> decide

theorem readRow_format (hn : Visible name) (k : Queue.Counter) :
    readRow (rowLabel k) (format false enabled name stats outcome elapsed) = some (stats.toCounters.get k) := by
  have hvalue : digitsValue 0 (toString (stats.toCounters.get k)).toList = some (stats.toCounters.get k) := by
    rw [Nat.toString_eq_ofList_toDigits, String.toList_ofList]
    exact digitsValue_toDigits _
  rw [readRow, splitOn_format hn, find?_row, Option.bind_some, String.toList_append, ← length_rowStart k,
    List.drop_left, hvalue]

theorem shows_format (hn : Visible name) (k : Queue.Counter) :
    Shows (format false enabled name stats outcome elapsed) (rowLabel k) (toString (stats.toCounters.get k)) := by
  obtain ⟨n, hwidth, hstart⟩ := exists_rowStart k
  refine ⟨n, hwidth, ?_⟩
  have hmem : (rowStart (rowLabel k) ++ toString (stats.toCounters.get k)).toList ∈
      (plain name stats outcome elapsed).map String.toList ++ [[]] :=
    List.mem_of_find?_eq_some (find?_row k)
  rw [splitOn_format hn, ← hstart, ← String.toList_append]
  exact hmem

end Rows

/-! ## The whole summary -/

/-- What can be read off a summary: it consists of seven lines, each ended by a line feed, the first with the quoted name
and the outcome; the values of the counters begin in one column, and can be read back from their rows. -/
structure Legible (text name : String) (stats : Queue.Stats) (outcome : Outcome) : Prop where
  unescaped : esc ∉ text.toList
  cut : ∃ rows, rows.length = 6 ∧
    text.toList.splitOn '\n' = ("Queue '" ++ name ++ "' " ++ outcome.label).toList :: rows ++ [[]]
  aligned : ∀ k, Shows text (rowLabel k) (toString (stats.toCounters.get k))
  readable : ∀ k, readRow (rowLabel k) text = some (stats.toCounters.get k)

/-- Whether or not styles take effect, a summary that asks for colours differs from one that does not by escape
sequences only, for every name that a queue can have, all counters, every outcome and every time; and the one without
colours is legible. -/
theorem summary_legible {name : String} (h : Validation.queueName name = .ok ()) (stats : Queue.Stats)
    (outcome : Outcome) (elapsed : Duration) (enabled : Bool) :
    unstyled (format true enabled name stats outcome elapsed) = format false enabled name stats outcome elapsed ∧
      Legible (format false enabled name stats outcome elapsed) name stats outcome := by
  have hn := visible_name h
  refine ⟨(clears_format hn).unstyled, ?_⟩
  constructor
  case unescaped => exact esc_notMem_format hn
  case cut =>
    refine ⟨(plain name stats outcome elapsed).tail.map String.toList, rfl, ?_⟩
    rw [splitOn_format hn]
    simp [plain, lines]
  case aligned => exact shows_format hn
  case readable => exact readRow_format hn

/-- A name that looks like the rest of an escape sequence, and a counter that fills its word. -/
theorem sample_summary_legible :
    Validation.queueName "it's [0m" = .ok () ∧
      unstyled (format true true "it's [0m" { failed := 18446744073709551615 } .interrupted ⟨1, 500000000⟩) =
        format false true "it's [0m" { failed := 18446744073709551615 } .interrupted ⟨1, 500000000⟩ ∧
      readRow "failed" (format false true "it's [0m" { failed := 18446744073709551615 } .interrupted ⟨1, 500000000⟩) =
        some 18446744073709551615 := by
  have hname : Validation.queueName "it's [0m" = .ok () := rfl
  obtain ⟨hsame, hlegible⟩ := summary_legible hname { failed := 18446744073709551615 } .interrupted ⟨1, 500000000⟩ true
  exact ⟨hname, hsame, hlegible.readable .failed⟩

end Conveyor.Cli.Summary
