import Conveyor.Pattern.Basic
import Conveyor.Pattern.Folding
import Conveyor.Text.Blank

/-!
# Patterns as text

The written form of patterns. Characters stand for themselves, with a backslash in front where they have a meaning of
their own; `.` is any character but a line feed; `[…]` is one of a set, which may contain sets, be negated, and be built
by `&&`, `--` and `~~`; `?`, `*`, `+` and counts in braces repeat what stands before them; bars separate alternatives;
and parentheses group, and may change the mode in which the rest of their group is read.
-/

namespace Conveyor.Pattern

/-- How a part of a text is read. -/
structure Mode where
  ignoreCase : Bool := false
  /-- The anchors for the ends of the text hold at the ends of lines as well. -/
  multiLine : Bool := false
  /-- A point stands for every character. -/
  dotAll : Bool := false
  /-- Carriage returns end lines as well. -/
  returns : Bool := false
  /-- Classes are those of all alphabets, and not of the basic one alone. -/
  unicode : Bool := true
  /-- White space and comments do not count. -/
  spaced : Bool := false
deriving DecidableEq

/-- Skips white space and comments; the flag says whether a comment is under way. -/
def skipSpaced : Bool → List Char → List Char
  | _, [] => []
  | true, c :: cs => skipSpaced (c ≠ '\n') cs
  | false, c :: cs =>
    if c = '#' then skipSpaced true cs else if Text.isBlank c then skipSpaced false cs else c :: cs

namespace Mode

/-- Skips what does not count. -/
def skip (m : Mode) (cs : List Char) : List Char := if m.spaced then skipSpaced false cs else cs

/-- The set of the characters that differ from one of a set at most as the mode allows. -/
def fold (m : Mode) (s : CharSet) : CharSet :=
  if !m.ignoreCase then s else if m.unicode then s.anyCase else s.anyAsciiCase

/-- A set or, if negated, all other characters; the basic alphabet alone has no others. -/
def close (m : Mode) (negated : Bool) (s : CharSet) : Option CharSet :=
  if !negated then some (m.fold s) else if m.unicode then some (m.fold s).complement else none

end Mode

/-! ## Named sets -/

/-- The sets with a name between colons. -/
def asciiSets : List (String × List (Nat × Nat)) := [
  ("alnum", [(48, 57), (65, 90), (97, 122)]),
  ("alpha", [(65, 90), (97, 122)]),
  ("ascii", [(0, 127)]),
  ("blank", [(9, 9), (32, 32)]),
  ("cntrl", [(0, 31), (127, 127)]),
  ("digit", [(48, 57)]),
  ("graph", [(33, 126)]),
  ("lower", [(97, 122)]),
  ("print", [(32, 126)]),
  ("punct", [(33, 47), (58, 64), (91, 96), (123, 126)]),
  ("space", [(9, 13), (32, 32)]),
  ("upper", [(65, 90)]),
  ("word", [(48, 57), (65, 90), (95, 95), (97, 122)]),
  ("xdigit", [(48, 57), (65, 70), (97, 102)])]

/-- What follows an opening bracket, if it is a set with a name between colons, and whether it is negated. -/
def asciiSet? : List Char → Option ((Bool × CharSet) × List Char)
  | ':' :: cs =>
    let (negated, cs) := match cs with
      | '^' :: cs => (true, cs)
      | cs => (false, cs)
    match cs.dropWhile (· ≠ ':') with
    | ':' :: ']' :: rest =>
      (asciiSets.lookup (String.ofList (cs.takeWhile (· ≠ ':')))).map fun rs => ((negated, ⟨rs⟩), rest)
    | _ => none
  | _ => none

/-- The digits, the white space or the word characters. -/
def letterSet (unicode : Bool) (letter : Char) : Option CharSet :=
  let ascii (name : String) : CharSet := ⟨(asciiSets.lookup name).getD []⟩
  match letter with
  | 'd' => some (if unicode then Category.decimalDigit else ascii "digit")
  | 's' => some (if unicode then Property.whiteSpace else ascii "space")
  | 'w' => some (if unicode then Property.wordChars else ascii "word")
  | _ => none

/-- Characters up to a closing one; what does not count is left out. -/
def readUpTo (m : Mode) (closing : Char) : Nat → List Char → Option (List Char × List Char)
  | 0, _ => none
  | n + 1, cs =>
    match m.skip cs with
    | [] => none
    | c :: cs => if c = closing then some ([], cs) else (readUpTo m closing n cs).map fun r => (c :: r.1, r.2)

/-- What stands on both sides of the first inequality sign. -/
def splitUnequal : List Char → Option (List Char × List Char)
  | '!' :: '=' :: cs => some ([], cs)
  | c :: cs => (splitUnequal cs).map fun r => (c :: r.1, r.2)
  | [] => none

/-- What stands on both sides of the first mark. -/
def splitMark (mark : Char) (cs : List Char) : Option (List Char × List Char) :=
  match cs.dropWhile (· ≠ mark) with
  | [] => none
  | _ :: rest => some (cs.takeWhile (· ≠ mark), rest)

/-- The set that a property between braces stands for, before it is closed, and whether it is negated. -/
def propertySet (cs : List Char) : Option (Bool × CharSet) :=
  match splitUnequal cs with
  | some (name, value) => (Property.valued? name value).map (true, ·)
  | none =>
    match (splitMark ':' cs).orElse fun _ => splitMark '=' cs with
    | some (name, value) => (Property.valued? name value).map (false, ·)
    | none => (Property.named? cs).map (false, ·)

/-- The property after its letter: one more letter, or a name between braces. -/
def readProperty (m : Mode) (negated : Bool) (cs : List Char) : Option (CharSet × List Char) :=
  if !m.unicode then none
  else
    match m.skip cs with
    | [] => none
    | '\x7b' :: cs =>
      match readUpTo m '\x7d' (cs.length + 1) cs with
      | some (name, rest) =>
        match propertySet name with
        | some (unequal, s) => (m.close (negated != unequal) s).map (·, rest)
        | none => none
      | none => none
    | c :: cs =>
      if c = '\\' then none
      else
        match Property.named? [c] with
        | some s => (m.close negated s).map (·, m.skip cs)
        | none => none

/-! ## Characters -/

/-- The characters that have a meaning of their own somewhere. -/
def isMark (c : Char) : Bool := "\\.+*?()|[]\x7b\x7d^$#&-~".toList.contains c

/-- The characters that a backslash may stand before without giving them a meaning. -/
def mayBeEscaped (c : Char) : Bool :=
  isMark c || (c.toNat < 128 && !c.isAlphanum && c != '<' && c != '>')

def isHexDigit (c : Char) : Bool := c.isDigit || ('a' ≤ c && c ≤ 'f') || ('A' ≤ c && c ≤ 'F')

/-- The character with a code point given in hexadecimal digits. -/
def codePoint (ds : List Char) : Option Char :=
  let n := CharSet.hexValue (ds.map Char.toLower)
  if h : n.isValidChar then some (Char.ofNatAux n h) else none

/-- So many hexadecimal digits. -/
def readHexDigits (m : Mode) : Nat → List Char → Option (List Char × List Char)
  | 0, cs => some ([], cs)
  | _ + 1, [] => none
  | n + 1, c :: cs =>
    if isHexDigit c then (readHexDigits m n (m.skip cs)).map fun r => (c :: r.1, r.2) else none

/-- A character given by its code point, in so many digits or between braces. -/
def readCodePoint (m : Mode) (digits : Nat) (cs : List Char) : Option (Char × List Char) :=
  match m.skip cs with
  | '\x7b' :: cs =>
    match readUpTo m '\x7d' (cs.length + 1) cs with
    | some (ds, rest) =>
      if ds ≠ [] ∧ ds.all isHexDigit then (codePoint ds).map (·, m.skip rest) else none
    | none => none
  | cs =>
    match readHexDigits m digits cs with
    | some (ds, rest) =>
      match codePoint ds with
      | some c => if digits = 2 ∧ 127 < c.toNat ∧ !m.unicode then none else some (c, rest)
      | none => none
    | none => none

/-- The control character that a letter after a backslash stands for. -/
def controlEscape (c : Char) : Option Char :=
  match c with
  | 'a' => some '\x07'
  | 'f' => some '\x0c'
  | 't' => some '\t'
  | 'n' => some '\n'
  | 'r' => some '\r'
  | 'v' => some '\x0b'
  | _ => none

/-- What a backslash and what follows it stand for. -/
inductive Escape where
  | char (c : Char)
  | set (s : CharSet)
  | anchor (a : Anchor)

/-- The edge of words that a word between braces names. -/
def edgeNamed (name : List Char) : Option WordEdge :=
  let names : List (String × WordEdge) :=
    [("start", .start), ("end", .stop), ("start-half", .noneBefore), ("end-half", .noneBehind)]
  names.lookup (String.ofList name)

/-- An edge of words after its letter; braces that begin with a letter or a hyphen name a special one. -/
def readEdge (m : Mode) : List Char → Option (WordEdge × List Char)
  | '\x7b' :: cs =>
    match m.skip cs with
    | [] => none
    | c :: _ =>
      if c.isAlpha || c = '-' then
        match readUpTo m '\x7d' (cs.length + 1) cs with
        | some (name, rest) => (edgeNamed name).map (·, rest)
        | none => none
      else some (.some, '\x7b' :: cs)
  | cs => some (.some, cs)

/-- What stands after a backslash. -/
def readEscape (m : Mode) : List Char → Option (Escape × List Char)
  | [] => none
  | c :: cs =>
    let edge (e : WordEdge) : Escape := .anchor (.word e m.unicode)
    if mayBeEscaped c then some (.char c, cs)
    else
      match letterSet m.unicode c.toLower, controlEscape c, c with
      | some s, _, _ =>
        if c.isLower then some (.set s, cs)
        else if m.unicode then some (.set s.complement, cs) else none
      | none, some k, _ => some (.char k, cs)
      | none, none, 'x' => (readCodePoint m 2 cs).map fun r => (.char r.1, r.2)
      | none, none, 'u' => (readCodePoint m 4 cs).map fun r => (.char r.1, r.2)
      | none, none, 'U' => (readCodePoint m 8 cs).map fun r => (.char r.1, r.2)
      | none, none, 'p' => (readProperty m false cs).map fun r => (.set r.1, r.2)
      | none, none, 'P' => (readProperty m true cs).map fun r => (.set r.1, r.2)
      | none, none, 'A' => some (.anchor .textStart, cs)
      | none, none, 'z' => some (.anchor .textEnd, cs)
      | none, none, 'b' => (readEdge m cs).map fun r => (edge r.1, r.2)
      | none, none, 'B' => some (edge .none, cs)
      | none, none, '<' => some (edge .start, cs)
      | none, none, '>' => some (edge .stop, cs)
      | _, _, _ => none

/-! ## Sets between brackets -/

/-- How two sets between brackets are put together. -/
inductive SetOp where
  | inter
  | diff
  | symmDiff

/-- A set, and how deep it is nested. -/
abbrev Nested := CharSet × Nat

def SetOp.apply (m : Mode) : SetOp → Nested → Nested → Nested
  | op, (s, d), (t, e) =>
    let s := m.fold s
    let t := m.fold t
    (match op with
      | .inter => s.inter t
      | .diff => s.diff t
      | .symmDiff => s.symmDiff t, 1 + max d e)

/-- The union of sets. -/
def unionOf : List Nested → Nested
  | [] => (.empty, 0)
  | [s] => s
  | ss => (.unions (ss.map (·.1)), 1 + (ss.map (·.2)).foldl max 0)

/-- What has been read of a set between brackets. -/
structure Bracket where
  negated : Bool
  /-- What is to be put together with the union under way. -/
  pending : Option (SetOp × Nested) := none
  /-- The members of the union under way, the last one first. -/
  members : List Nested := []

namespace Bracket

/-- What has been read, as one set. -/
def total (b : Bracket) (m : Mode) : Nested :=
  match b.pending with
  | some (op, left) => op.apply m left (unionOf b.members.reverse)
  | none => unionOf b.members.reverse

def push (b : Bracket) (s : Nested) : Bracket := { b with members := s :: b.members }

/-- Goes on with what is to be put together with all that has been read. -/
def operate (b : Bracket) (m : Mode) (op : SetOp) : Bracket :=
  { b with pending := some (op, b.total m), members := [] }

end Bracket

/-- One character or set between brackets. -/
def readMember (m : Mode) : List Char → Option (Escape × List Char)
  | [] => none
  | '\\' :: cs => readEscape m cs
  | c :: cs => some (.char c, cs)

/-- The next character that counts, where a hyphen is looked behind; the mark of a comment is passed over, but the
comment is not. -/
def peekSpaced : Bool → List Char → Option Char
  | _, [] => none
  | comment, c :: cs =>
    if Text.isBlank c then peekSpaced comment cs
    else if !comment && c = '#' then peekSpaced true cs
    else some c

/-- Whether a character may stand in a set. -/
def Mode.holds (m : Mode) (c : Char) : Bool := m.unicode || c.toNat < 128

/-- A range, a character or a set between brackets. -/
def readRange (m : Mode) (cs : List Char) : Option (CharSet × List Char) :=
  match readMember m cs with
  | none => none
  | some (first, cs) =>
    let alone (rest : List Char) : Option (CharSet × List Char) :=
      match first with
      | .char c => if m.holds c then some (.single c, rest) else none
      | .set s => some (s, rest)
      | .anchor _ => none
    match m.skip cs with
    | [] => none
    | '-' :: rest =>
      let next := if m.spaced then peekSpaced false rest else rest.head?
      if next = some ']' ∨ next = some '-' then alone ('-' :: rest)
      else
        match first, readMember m (m.skip rest) with
        | .char lo, some (.char hi, rest) =>
          if lo ≤ hi ∧ m.holds lo ∧ m.holds hi then some (⟨[(lo.toNat, hi.toNat)]⟩, rest) else none
        | _, _ => none
    | rest => alone rest

/-- The hyphens, and the closing bracket, that stand for themselves at the beginning of a set. -/
def readLeading (m : Mode) (b : Bracket) : Nat → List Char → Option (Bracket × List Char)
  | 0, _ => none
  | n + 1, cs =>
    match cs with
    | [] => none
    | '-' :: cs => readLeading m (b.push (.single '-', 0)) n (m.skip cs)
    | ']' :: cs =>
      if b.members.isEmpty then
        match m.skip cs with
        | [] => none
        | cs => some (b.push (.single ']', 0), cs)
      else some (b, ']' :: cs)
    | cs => some (b, cs)

/-- The beginning of a set, after its bracket. -/
def readOpening (m : Mode) (cs : List Char) : Option (Bracket × List Char) :=
  let (negated, cs) := match m.skip cs with
    | '^' :: cs => (true, m.skip cs)
    | cs => (false, cs)
  readLeading m { negated } (cs.length + 1) cs

/-- The rest of a set between brackets. -/
def readSet (m : Mode) : Nat → Bracket → List Char → Option (Nested × List Char)
  | 0, _, _ => none
  | n + 1, b, cs =>
    match m.skip cs with
    | [] => none
    | '[' :: cs =>
      match asciiSet? cs with
      | some ((negated, s), rest) =>
        match m.close negated s with
        | some s => readSet m n (b.push (s, 0)) rest
        | none => none
      | none =>
        match readOpening m cs with
        | some (inner, rest) =>
          match readSet m n inner rest with
          | some (s, rest) => readSet m n (b.push s) rest
          | none => none
        | none => none
    | ']' :: rest =>
      let (s, depth) := b.total m
      (m.close b.negated s).map fun s => ((s, depth + 1), rest)
    | '&' :: '&' :: rest => readSet m n (b.operate m .inter) rest
    | '-' :: '-' :: rest => readSet m n (b.operate m .diff) rest
    | '~' :: '~' :: rest => readSet m n (b.operate m .symmDiff) rest
    | cs =>
      match readRange m cs with
      | some (s, rest) => readSet m n (b.push (s, 0)) rest
      | none => none

/-! ## Repetitions -/

/-- Decimal digits; what does not count is left out. -/
def readDigits (m : Mode) : Nat → List Char → List Char × List Char
  | 0, cs => ([], cs)
  | _ + 1, [] => ([], [])
  | n + 1, c :: cs =>
    if c.isDigit then
      let (ds, rest) := readDigits m n (m.skip cs)
      (c :: ds, rest)
    else ([], c :: cs)

/-- The largest count. -/
def maxCount : Nat := 4294967295

/-- A count with white space around it, if there is one. -/
def readCount (m : Mode) (cs : List Char) : Option Nat × List Char :=
  let (ds, rest) := readDigits m cs.length (cs.dropWhile Text.isBlank)
  let n := ds.foldl (fun n c => 10 * n + (c.toNat - 48)) 0
  (if ds = [] ∨ maxCount < n then none else some n, m.skip (rest.dropWhile Text.isBlank))

/-- A mark that makes a repetition prefer fewer times says nothing about whether a pattern occurs. -/
def skipLazy : List Char → List Char
  | '?' :: cs => cs
  | cs => cs

/-- The counts between braces, after the opening one. -/
def readCounts (m : Mode) (cs : List Char) : Option ((Nat × Option Nat) × List Char) :=
  let finish (least : Nat) (most : Option Nat) : List Char → Option ((Nat × Option Nat) × List Char)
    | '\x7d' :: rest => if most.all (least ≤ ·) then some ((least, most), skipLazy (m.skip rest)) else none
    | _ => none
  match readCount m (m.skip cs) with
  | (some least, ',' :: cs) =>
    match m.skip cs with
    | '\x7d' :: rest => finish least none ('\x7d' :: rest)
    | cs =>
      match readCount m cs with
      | (some most, rest) => finish least (some most) rest
      | (none, _) => none
  | (some n, rest) => finish n (some n) rest
  | (none, _) => none

/-- How often what stands before a mark is repeated. -/
def readRepetition (m : Mode) : List Char → Option ((Nat × Option Nat) × List Char)
  | '?' :: cs => some ((0, some 1), skipLazy cs)
  | '*' :: cs => some ((0, none), skipLazy cs)
  | '+' :: cs => some ((1, none), skipLazy cs)
  | '\x7b' :: cs => readCounts m cs
  | _ => none

/-! ## Groups -/

/-- Changes a mode by a flag. -/
def Mode.set (m : Mode) (flag : Char) (on : Bool) : Option Mode :=
  match flag with
  | 'i' => some { m with ignoreCase := on }
  | 'm' => some { m with multiLine := on }
  | 's' => some { m with dotAll := on }
  | 'R' => some { m with returns := on }
  | 'u' => some { m with unicode := on }
  | 'x' => some { m with spaced := on }
  | 'U' => some m
  | _ => none

/-- Flags up to a colon or a closing parenthesis. A flag stands once at most, behind a hyphen if it is to be taken away,
and a hyphen once at most, and not at the end. -/
def readFlags (m : Mode) (seen : List Char) : List Char → Option (Mode × Char × List Char)
  | [] => none
  | c :: cs =>
    if c = ':' then if seen.head? = some '-' then none else some (m, c, cs)
    else if c = ')' then if seen.isEmpty || seen.head? = some '-' then none else some (m, c, cs)
    else if seen.contains c then none
    else if c = '-' then readFlags m (c :: seen) cs
    else
      match m.set c (!seen.contains '-') with
      | some m => readFlags m (c :: seen) cs
      | none => none

/-- Whether a name for a group may hold a character. -/
def isNameChar (first : Bool) (c : Char) : Bool :=
  c = '_' ||
    if first then Property.alphabetic.contains c
    else c = '.' || c = '[' || c = ']' || Property.alphanumeric.contains c

/-- A name for a group, up to an angle bracket. -/
def readName (cs : List Char) : Option (String × List Char) :=
  match cs.takeWhile (· ≠ '>'), cs.dropWhile (· ≠ '>') with
  | c :: name, '>' :: rest =>
    if isNameChar true c && name.all (isNameChar false) then some (String.ofList (c :: name), rest) else none
  | _, _ => none

/-- What an opening parenthesis begins. -/
inductive Opening where
  /-- A change of the mode for the rest of the group around. -/
  | change (m : Mode)
  | group (m : Mode)
  | named (name : String)

/-- What follows an opening parenthesis. -/
def readGroup (m : Mode) (cs : List Char) : Option (Opening × List Char) :=
  match m.skip cs with
  | '?' :: '=' :: _ | '?' :: '!' :: _ | '?' :: '<' :: '=' :: _ | '?' :: '<' :: '!' :: _ => none
  | '?' :: 'P' :: '<' :: cs | '?' :: '<' :: cs => (readName cs).map fun r => (.named r.1, r.2)
  | '?' :: cs =>
    (readFlags m [] cs).map fun (m, closing, rest) => (if closing = ')' then .change m else .group m, rest)
  | cs => some (.group m, cs)

/-! ## Whole patterns -/

/-- A part of a pattern. -/
structure Piece where
  pattern : Pattern
  /-- How deep it is nested. -/
  depth : Nat := 0
  /-- Whether it can be repeated. -/
  solid : Bool := true

namespace Piece

/-- Pieces one after the other. -/
def chain : List Piece → Piece
  | [] => ⟨.empty, 0, true⟩
  | [p] => p
  | p :: ps => ⟨ps.foldl (fun q r => .seq q r.pattern) p.pattern, 1 + ((p :: ps).map depth).foldl max 0, true⟩

/-- One of several pieces. -/
def choice : List Piece → Piece
  | [] => ⟨.empty, 0, true⟩
  | [p] => p
  | p :: ps => ⟨ps.foldl (fun q r => .alt q r.pattern) p.pattern, 1 + ((p :: ps).map depth).foldl max 0, true⟩

end Piece

/-- What a character outside of brackets stands for. -/
def readPlain (m : Mode) : List Char → Option (Pattern × List Char)
  | [] => none
  | '\\' :: cs =>
    (readEscape m cs).map fun
      | (.char c, rest) => (.one (m.fold (.single c)), rest)
      | (.set s, rest) => (.one s, rest)
      | (.anchor a, rest) => (.anchor a, rest)
  | '.' :: cs =>
    if !m.unicode then none
    else if m.dotAll then some (.one .all, cs)
    else some (.one (CharSet.complement ⟨(10, 10) :: if m.returns then [(13, 13)] else []⟩), cs)
  | '^' :: cs => some (.anchor (if m.multiLine then .lineStart m.returns else .textStart), cs)
  | '$' :: cs => some (.anchor (if m.multiLine then .lineEnd m.returns else .textEnd), cs)
  | c :: cs => some (.one (m.fold (.single c)), cs)

/-- What has been read of a group. -/
structure Group where
  mode : Mode := {}
  /-- The names of all groups so far. -/
  names : List String := []
  /-- The pieces of the alternative under way, the last one first. -/
  pieces : List Piece := []
  /-- The alternatives before it, the last one first. -/
  alternatives : List Piece := []

namespace Group

def push (g : Group) (p : Piece) : Group := { g with pieces := p :: g.pieces }

/-- The alternative under way is over. -/
def turn (g : Group) : Group := { g with pieces := [], alternatives := .chain g.pieces.reverse :: g.alternatives }

/-- What has been read, as one piece. -/
def total (g : Group) : Piece := .choice g.turn.alternatives.reverse

end Group

/-- The rest of a group, up to its closing parenthesis or the end of the text. -/
def readPieces : Nat → Group → List Char → Option (Group × List Char)
  | 0, _, _ => none
  | n + 1, g, cs =>
    match g.mode.skip cs with
    | [] => some (g, [])
    | ')' :: rest => some (g, ')' :: rest)
    | '|' :: rest => readPieces n g.turn rest
    | '(' :: rest =>
      match readGroup g.mode rest with
      | some (.change m, rest) => readPieces n ({ g with mode := m }.push ⟨.empty, 0, false⟩) rest
      | some (.group m, rest) =>
        match readPieces n { mode := m, names := g.names } rest with
        | some (inner, ')' :: rest) =>
          readPieces n ({ g with names := inner.names }.push ⟨inner.total.pattern, inner.total.depth + 1, true⟩) rest
        | _ => none
      | some (.named name, rest) =>
        if g.names.contains name then none
        else
          match readPieces n { mode := g.mode, names := name :: g.names } rest with
          | some (inner, ')' :: rest) =>
            readPieces n ({ g with names := inner.names }.push ⟨inner.total.pattern, inner.total.depth + 1, true⟩) rest
          | _ => none
      | none => none
    | '[' :: rest =>
      match readOpening g.mode rest with
      | some (b, rest) =>
        match readSet g.mode (rest.length + 1) b rest with
        | some ((s, depth), rest) => readPieces n (g.push ⟨.one s, depth, true⟩) rest
        | none => none
      | none => none
    | c :: rest =>
      if ['?', '*', '+', '\x7b'].contains c then
        match g.pieces, readRepetition g.mode (c :: rest) with
        | p :: ps, some ((least, most), rest) =>
          if p.solid then
            readPieces n { g with pieces := ⟨.repeated p.pattern least most, p.depth + 1, true⟩ :: ps } rest
          else none
        | _, _ => none
      else
        match readPlain g.mode (c :: rest) with
        | some (p, rest) => readPieces n (g.push ⟨p, 0, true⟩) rest
        | none => none

/-- How deep a pattern may be nested. -/
def maxDepth : Nat := 250

/-- How many bytes a compiled pattern may take. -/
def maxWeight : Nat := 10485760

/-- The pattern that a text describes. -/
def parse? (text : String) : Option Pattern :=
  match readPieces (text.length + 1) {} text.toList with
  | some (g, []) => if g.total.depth ≤ maxDepth ∧ g.total.pattern.weight ≤ maxWeight then some g.total.pattern else none
  | _ => none

end Conveyor.Pattern
