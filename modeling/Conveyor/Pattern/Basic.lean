import Conveyor.Pattern.Property

/-!
# Patterns

A pattern describes which parts of a text it matches. A part is given by two positions, and a pattern takes a set of
positions at which a part may begin to the set of those at which it may then end. Sets of positions are increasing
lists.

* `ends_nil`: from nowhere a pattern leads nowhere.
-/

namespace Conveyor

namespace Pattern

/-- What may be asked of a position between two characters that belong to words or not. -/
inductive WordEdge where
  /-- Exactly one of the two belongs to a word. -/
  | some
  /-- Both or neither. -/
  | none
  /-- A word begins. -/
  | start
  /-- A word ends. -/
  | stop
  /-- The character before does not belong to a word. -/
  | noneBefore
  /-- The character behind does not belong to a word. -/
  | noneBehind
deriving DecidableEq

/-- A condition on a position. -/
inductive Anchor where
  | textStart
  | textEnd
  /-- Behind a line feed, or at the start; a flag says whether carriage returns end lines as well. -/
  | lineStart (returns : Bool)
  | lineEnd (returns : Bool)
  /-- An edge of words, of letters of all alphabets or of the basic one alone. -/
  | word (edge : WordEdge) (unicode : Bool)
deriving DecidableEq

/-- Letters, digits and the underscore. -/
def asciiWord : CharSet := ⟨[(48, 57), (65, 90), (95, 95), (97, 122)]⟩

def WordEdge.holds (edge : WordEdge) (before behind : Bool) : Bool :=
  match edge with
  | .some => before != behind
  | .none => before == behind
  | .start => !before && behind
  | .stop => before && !behind
  | .noneBefore => !before
  | .noneBehind => !behind

/-- Whether a condition holds between two characters; at an end of the text there is only one. -/
def Anchor.holds (before behind : Option Char) : Anchor → Bool
  | .textStart => before.isNone
  | .textEnd => behind.isNone
  | .lineStart false => before.all (· = '\n')
  | .lineEnd false => behind.all (· = '\n')
  | .lineStart true => before.all fun c => c = '\n' || (c = '\r' && behind != some '\n')
  | .lineEnd true => behind.all fun c => c = '\r' || (c = '\n' && before != some '\r')
  | .word edge unicode =>
    let isWord (c : Char) : Bool := if unicode then Property.wordChars.contains c else asciiWord.contains c
    edge.holds (before.any isWord) (behind.any isWord)

end Pattern

inductive Pattern where
  | empty
  /-- One character of a set. -/
  | one (s : Pattern.CharSet)
  | anchor (a : Pattern.Anchor)
  | seq (p q : Pattern)
  | alt (p q : Pattern)
  /-- At least `least` times, and at most `most` times if there is a limit. -/
  | repeated (p : Pattern) (least : Nat) (most : Option Nat)
deriving DecidableEq

namespace Pattern

/-- The union of two increasing lists. -/
def merge : List Nat → List Nat → List Nat
  | [], js => js
  | is, [] => is
  | i :: is, j :: js =>
    if i < j then i :: merge is (j :: js)
    else if j < i then j :: merge (i :: is) js
    else i :: merge is js

/-- `n` steps, or as many as it takes until nothing changes. -/
def steps (f : List Nat → List Nat) : Nat → List Nat → List Nat
  | 0, is => is
  | n + 1, is =>
    let js := f is
    if js = is then is else steps f n js

/-- The positions at which a part that the pattern matches may end, if it begins at one of the given positions. -/
def ends (text : Array Char) : Pattern → List Nat → List Nat
  | .empty, is => is
  | .one s, is => is.filterMap fun i => if text[i]?.any s.contains then some (i + 1) else none
  | .anchor a, is => is.filter fun i => a.holds (if i = 0 then none else text[i - 1]?) text[i]?
  | .seq p q, is => q.ends text (p.ends text is)
  | .alt p q, is => merge (p.ends text is) (q.ends text is)
  | .repeated p least most, is =>
    let more (js : List Nat) : List Nat := merge js (p.ends text js)
    let extra := match most with
      | some most => most - least
      | none => text.size + 1
    steps more extra (steps (p.ends text) least is)

/-- Whether the pattern matches some part of a text. -/
def occurs (p : Pattern) (text : String) : Bool :=
  let cs := text.toList.toArray
  p.ends cs (List.range (cs.size + 1)) != []

/-! ## Size -/

/-- How many bytes the UTF-8 form of a code point has. -/
def utf8Length (n : Nat) : Nat :=
  if n < 0x80 then 1 else if n < 0x800 then 2 else if n < 0x10000 then 3 else 4

/-- About how many bytes a set takes in a compiled pattern. -/
def CharSet.weight (s : CharSet) : Nat :=
  match s.intervals with
  | [] => 32
  | [(lo, hi)] => if lo = hi then 32 * utf8Length lo else 40 * utf8Length hi
  | rs => if s.isAscii then 32 + 8 * rs.length else 32 + 40 * rs.length

/-- Whether a pattern matches the empty part only, by its form. -/
def isHollow : Pattern → Bool
  | .empty | .anchor _ => true
  | .one _ => false
  | .seq p q | .alt p q => p.isHollow && q.isHollow
  | .repeated p _ most => p.isHollow || most == some 0

/-- About how many bytes a compiled pattern takes. -/
def weight : Pattern → Nat
  | .empty | .anchor _ => 32
  | .one s => s.weight
  | .seq p q => p.weight + q.weight
  | .alt p q => p.weight + q.weight + 48
  | .repeated p least most =>
    if p.isHollow then p.weight + 32
    else
      match most with
      | none => max least 1 * p.weight + 48
      | some most => least * p.weight + (most - least) * (p.weight + 40) + 32

/-! ## Laws -/

theorem steps_nil {f : List Nat → List Nat} (h : f [] = []) (n : Nat) : steps f n [] = [] := by
  cases n <;> simp [steps, h]

/-- From nowhere a pattern leads nowhere. -/
theorem ends_nil (text : Array Char) (p : Pattern) : p.ends text [] = [] := by
  induction p with
  | empty => rfl
  | one s => rfl
  | anchor a => rfl
  | seq p q ihp ihq => rw [ends, ihp, ihq]
  | alt p q ihp ihq => rw [ends, ihp, ihq, merge]
  | repeated p least most ih =>
    have hm : merge [] (p.ends text []) = [] := by rw [ih, merge]
    simp only [ends, steps_nil ih]
    exact steps_nil (f := fun js => merge js (p.ends text js)) hm _

end Pattern

end Conveyor
