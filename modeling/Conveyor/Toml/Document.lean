import Conveyor.Toml.Scalar

/-!
# Documents

Reading a whole configuration file: entries, headers, arrays and inline tables. Tables are put together under the rules
on what may be added where: a table has one header at most, tables that dotted keys made take no header, and inline
tables and plain arrays are closed.
-/

namespace Conveyor.Toml

/-! ## Tables under construction -/

/-- How a table came about. -/
inductive Origin where
  /-- It has a header of its own, or is the whole document. -/
  | header
  /-- It was needed on the way to another header. -/
  | implied
  /-- It was needed for a dotted key. -/
  | dotted
deriving DecidableEq

/-- What an entry of a table under construction holds. -/
inductive Node where
  | value (v : Value)
  | table (origin : Origin) (entries : List (String × Node))
  /-- An array of tables, the latest first. -/
  | tables (latestFirst : List (List (String × Node)))

/-- The entries of a table under construction. -/
abbrev Entries := List (String × Node)

namespace Entries

def get? (es : Entries) (key : String) : Option Node := List.lookup key es

def put (es : Entries) (key : String) (n : Node) : Entries := insertSorted key n es

/-- Adds a value under a dotted key. `origin` is that of the table itself; `nested` says that the key led here from an
outer table, and then only a table made by dotted keys may be added to. -/
def addDotted (v : Value) (nested : Bool) (origin : Origin) (es : Entries) : List String → Option Entries
  | [] => none
  | [key] =>
    if (nested && origin != .dotted) || (es.get? key).isSome then none else some (es.put key (.value v))
  | key :: path =>
    match es.get? key with
    | none => (addDotted v true .dotted [] path).map fun inner => es.put key (.table .dotted inner)
    | some (.table .header _) | some (.value _) | some (.tables []) => none
    | some (.table origin inner) =>
      (addDotted v true origin inner path).map fun inner => es.put key (.table origin inner)
    | some (.tables (last :: earlier)) =>
      (addDotted v true .header last path).map fun last => es.put key (.tables (last :: earlier))

/-- Changes the table that a header's path leads to; tables that are not there yet are made on the way. -/
def within (change : String → Entries → Option Entries) (es : Entries) : List String → Option Entries
  | [] => none
  | [key] => change key es
  | key :: path =>
    match es.get? key with
    | none => (within change [] path).map fun inner => es.put key (.table .implied inner)
    | some (.table origin inner) => (within change inner path).map fun inner => es.put key (.table origin inner)
    | some (.tables (last :: earlier)) =>
      (within change last path).map fun last => es.put key (.tables (last :: earlier))
    | some (.value _) | some (.tables []) => none

/-- Gives a table its header. -/
def openTable (key : String) (es : Entries) : Option Entries :=
  match es.get? key with
  | none => some (es.put key (.table .header []))
  | some (.table .implied inner) => some (es.put key (.table .header inner))
  | _ => none

/-- Adds a table to an array of tables. -/
def openElement (key : String) (es : Entries) : Option Entries :=
  match es.get? key with
  | none => some (es.put key (.tables [[]]))
  | some (.tables earlier) => some (es.put key (.tables ([] :: earlier)))
  | _ => none

/-- Adds a value under a dotted key to the table of a header. -/
def addUnder (path : List String) (v : Value) (key : String) (es : Entries) : Option Entries :=
  match es.get? key with
  | some (.table origin inner) =>
    (addDotted v false origin inner path).map fun inner => es.put key (.table origin inner)
  | some (.tables (last :: earlier)) =>
    (addDotted v false .header last path).map fun last => es.put key (.tables (last :: earlier))
  | _ => none

end Entries

mutual

def Node.finished : Node → Value
  | .value v => v
  | .table _ es => .table (finishedEntries es)
  | .tables ts => .array (finishedTables ts).reverse

def finishedEntries : Entries → Table
  | [] => []
  | (k, n) :: es => (k, n.finished) :: finishedEntries es

def finishedTables : List Entries → List Value
  | [] => []
  | t :: ts => .table (finishedEntries t) :: finishedTables ts

end

/-! ## Reading -/

/-- A key without quotes, or one between quotes of either kind. -/
def readSimpleKey : List Char → Option (String × List Char)
  | '"' :: cs => (basicString cs).map fun r => (String.ofList r.1, r.2)
  | '\'' :: cs => (literalString cs).map fun r => (String.ofList r.1, r.2)
  | cs =>
    let bare (c : Char) : Bool := c.isAlphanum || c = '-' || c = '_'
    let key := cs.takeWhile bare
    if key.isEmpty then none else some (String.ofList key, cs.dropWhile bare)

/-- How deep arrays and inline tables may be nested, and how many parts a dotted key may have. -/
def maxDepth : Nat := 80

/-- A dotted key of at most `n` parts, with the blanks around it. -/
def readParts : Nat → List Char → Option (List String × List Char)
  | 0, _ => none
  | n + 1, cs =>
    match readSimpleKey (skipBlanks cs) with
    | none => none
    | some (key, cs) =>
      match skipBlanks cs with
      | '.' :: cs => (readParts n cs).map fun r => (key :: r.1, r.2)
      | cs => some ([key], cs)

/-- A dotted key, with the blanks around it. -/
def readKey (cs : List Char) : Option (List String × List Char) := readParts maxDepth cs

/-- A key, an equals sign and a value; `gap` skips what may stand on either side of the sign. -/
def readEntry (gap : List Char → Option (List Char)) (value : List Char → Option (Value × List Char))
    (cs : List Char) : Option ((List String × Value) × List Char) :=
  match readKey cs with
  | none => none
  | some (key, cs) =>
    match gap cs with
    | some ('=' :: cs) =>
      match gap cs with
      | some cs => (value cs).map fun r => ((key, r.1), r.2)
      | none => none
    | _ => none

/-- At most `n` elements between commas, up to the closing mark; a comma may stand after the last one. -/
def readElements {α : Type} (closing : Char) (element : List Char → Option (α × List Char)) :
    Nat → List Char → Option (List α × List Char)
  | 0, _ => none
  | n + 1, cs =>
    match skipLines false cs with
    | none | some [] => none
    | some (c :: cs) =>
      if c = closing then some ([], cs)
      else
        match element (c :: cs) with
        | none => none
        | some (x, cs) =>
          match skipLines false cs with
          | none | some [] => none
          | some (c :: cs) =>
            if c = ',' then (readElements closing element n cs).map fun r => (x :: r.1, r.2)
            else if c = closing then some ([x], cs)
            else none

/-- The table of the entries between braces. -/
def inlineTable (entries : List (List String × Value)) : Option Value :=
  (entries.foldlM (fun es e => Entries.addDotted e.2 false .header es e.1) []).map fun es =>
    .table (finishedEntries es)

/-- A value inside of which values are nested at most `depth` deep. -/
def readValue : Nat → List Char → Option (Value × List Char)
  | depth, cs =>
    match cs with
    | '[' :: cs =>
      match depth with
      | 0 => none
      | depth + 1 =>
        (readElements ']' (readValue depth) (cs.length + 1) cs).map fun r => (.array r.1, r.2)
    | '\x7b' :: cs =>
      match depth with
      | 0 => none
      | depth + 1 =>
        match readElements '\x7d' (readEntry (skipLines false) (readValue depth)) (cs.length + 1) cs with
        | some (entries, cs) => (inlineTable entries).map (·, cs)
        | none => none
    | cs =>
      match readString cs with
      | some (s, cs) => some (.string (String.ofList s), cs)
      | none =>
        let (word, rest) := splitWord cs
        (readWord word).map (·, rest)

/-- What was read of a document: its entries, and the path of the header that is in force. -/
structure Draft where
  entries : Entries := []
  header : List String := []

namespace Draft

/-- Adds an entry to the table of the header in force. -/
def add (d : Draft) (key : List String) (v : Value) : Option Draft :=
  (match d.header with
    | [] => Entries.addDotted v false .header d.entries key
    | path => Entries.within (Entries.addUnder key v) d.entries path).map fun es => { d with entries := es }

/-- Puts a header in force. -/
def open? (d : Draft) (change : String → Entries → Option Entries) (path : List String) : Option Draft :=
  (Entries.within change d.entries path).map fun es => ⟨es, path⟩

end Draft

/-- One header or entry. -/
def readStatement (d : Draft) : List Char → Option (Draft × List Char)
  | '[' :: '[' :: cs =>
    match readKey cs with
    | some (path, ']' :: ']' :: cs) => (d.open? Entries.openElement path).map (·, cs)
    | _ => none
  | '[' :: cs =>
    match readKey cs with
    | some (path, ']' :: cs) => (d.open? Entries.openTable path).map (·, cs)
    | _ => none
  | cs =>
    match readEntry (fun cs => some (skipBlanks cs)) (readValue maxDepth) cs with
    | some ((key, v), cs) => (d.add key v).map (·, cs)
    | none => none

/-- Whether nothing but blanks and a comment is left on the line. -/
def atLineEnd (cs : List Char) : Bool :=
  match skipBlanks cs with
  | [] | '\n' :: _ | '\r' :: '\n' :: _ | '#' :: _ => true
  | _ => false

/-- At most `n` statements, up to the end of the text. -/
def readStatements : Nat → Draft → List Char → Option Draft
  | 0, _, _ => none
  | n + 1, d, cs =>
    match skipLines false cs with
    | none => none
    | some [] => some d
    | some cs =>
      match readStatement d cs with
      | some (d, cs) => if atLineEnd cs then readStatements n d cs else none
      | none => none

/-- A mark that may stand at the start of a text, and says nothing but how it was encoded. -/
def skipMark : List Char → List Char
  | c :: cs => if c.toNat = 0xfeff then cs else c :: cs
  | [] => []

/-- The table that a text describes. -/
def readDocument (text : String) : Option Table :=
  let cs := skipMark text.toList
  (readStatements (cs.length + 1) {} cs).map fun d => finishedEntries d.entries

/-! ## Settled values -/

/-- Whether an integer is a signed word. -/
def isSignedWord (n : Int) : Bool := -(Text.maxSigned : Int) - 1 ≤ n && n ≤ Text.maxSigned

/-- A table whose first key is this one stands for the date that is written as the text of the entry. -/
def dateKey : String := "$__toml_private_datetime"

mutual

/-- The value that is meant: a table that stands for a date is that date, and integers are signed words. -/
def Value.settled : Value → Option Value
  | .integer n => if isSignedWord n then some (.integer n) else none
  | .array vs => (settledElements vs).map .array
  | .table [] => some (.table [])
  | .table ((key, v) :: es) =>
    if key = dateKey then
      match v with
      | .string s => (readDatetime s.toList).map .datetime
      | _ => none
    else
      match v.settled, settledEntries es with
      | some v, some es => some (.table ((key, v) :: es))
      | _, _ => none
  | v => some v

/-- The entries of a whole document, or of a table that stands for itself. -/
def settledEntries : Table → Option Table
  | [] => some []
  | (key, v) :: es =>
    match v.settled, settledEntries es with
    | some v, some es => some ((key, v) :: es)
    | _, _ => none

def settledElements : List Value → Option (List Value)
  | [] => some []
  | v :: vs =>
    match v.settled, settledElements vs with
    | some v, some vs => some (v :: vs)
    | _, _ => none

end

/-- The table of settled values that a text describes. -/
def readSettings (text : String) : Option Table := (readDocument text).bind settledEntries

end Conveyor.Toml
