import Conveyor.Toml.Value

/-!
# Strings and numbers of a configuration file

Readers of the values that have no values inside. Each takes the characters that are left and gives back what it read
and what is left after that, or nothing if the text is malformed.
-/

namespace Conveyor.Toml

open Text

/-! ## Characters -/

def isBlankChar (c : Char) : Bool := c = ' ' || c = '\t'

/-- Control characters that may stand nowhere, not even in a comment. -/
def isForbidden (c : Char) : Bool := (c.toNat < 32 && c != '\t') || c.toNat = 127

def skipBlanks (cs : List Char) : List Char := cs.dropWhile isBlankChar

/-- Skips blanks, line ends and comments; the flag says whether a comment is under way. -/
def skipLines : Bool → List Char → Option (List Char)
  | _, [] => some []
  | true, '\n' :: cs => skipLines false cs
  | true, '\r' :: '\n' :: cs => skipLines false cs
  | true, c :: cs => if isForbidden c then none else skipLines true cs
  | false, '\r' :: '\n' :: cs => skipLines false cs
  | false, c :: cs =>
    if isBlankChar c || c = '\n' then skipLines false cs
    else if c = '#' then skipLines true cs
    else some (c :: cs)

/-! ## Strings -/

def hexValue (c : Char) : Option Nat :=
  if c.isDigit then some (c.toNat - 48)
  else if 'a' ≤ c ∧ c ≤ 'f' then some (c.toNat - 87)
  else if 'A' ≤ c ∧ c ≤ 'F' then some (c.toNat - 55)
  else none

/-- The character with a code point given in hexadecimal. -/
def codePoint (ds : List Char) : Option Char :=
  match ds.mapM hexValue with
  | none => none
  | some vs =>
    let n := vs.foldl (fun n d => 16 * n + d) 0
    if h : n.isValidChar then some (Char.ofNatAux n h) else none

/-- The character that a letter after a backslash stands for. -/
def simpleEscape (c : Char) : Option Char :=
  match c with
  | 'b' => some '\x08'
  | 't' => some '\t'
  | 'n' => some '\n'
  | 'f' => some '\x0c'
  | 'r' => some '\r'
  | 'e' => some '\x1b'
  | '"' => some '"'
  | '\\' => some '\\'
  | _ => none

/-- Puts a character in front of what the rest is read as. -/
def prepend (c : Option Char) (r : Option (List Char × List Char)) : Option (List Char × List Char) :=
  match c, r with
  | some c, some (s, rest) => some (c :: s, rest)
  | _, _ => none

/-- The rest of a string between double quotes, on one line. -/
def basicString : List Char → Option (List Char × List Char)
  | [] => none
  | '"' :: cs => some ([], cs)
  | '\\' :: 'x' :: a :: b :: cs => prepend (codePoint [a, b]) (basicString cs)
  | '\\' :: 'u' :: a :: b :: c :: d :: cs => prepend (codePoint [a, b, c, d]) (basicString cs)
  | '\\' :: 'U' :: a :: b :: c :: d :: e :: f :: g :: h :: cs =>
    prepend (codePoint [a, b, c, d, e, f, g, h]) (basicString cs)
  | '\\' :: c :: cs => prepend (simpleEscape c) (basicString cs)
  | c :: cs => if isForbidden c || c = '\\' then none else prepend (some c) (basicString cs)

/-- The rest of a string between single quotes, on one line. -/
def literalString : List Char → Option (List Char × List Char)
  | [] => none
  | '\'' :: cs => some ([], cs)
  | c :: cs => if isForbidden c then none else prepend (some c) (literalString cs)

/-- Where the reader of a string of several lines is. -/
inductive Folding where
  | off
  /-- After a backslash that must come before the end of the line. -/
  | pending
  /-- Within the white space that a backslash before the end of a line swallows. -/
  | on

/-- Whether a text starts with `n` copies of a character. -/
def startsWith (n : Nat) (c : Char) (cs : List Char) : Bool := cs.take n = List.replicate n c

/-- The rest of a string between three double quotes. Up to two more quotes may stand before the closing ones. -/
def basicLines : Folding → List Char → Option (List Char × List Char)
  | _, [] => none
  | .pending, '\n' :: cs => basicLines .on cs
  | .pending, '\r' :: '\n' :: cs => basicLines .on cs
  | .pending, c :: cs => if isBlankChar c then basicLines .pending cs else none
  | .on, '\n' :: cs => basicLines .on cs
  | .on, '\r' :: '\n' :: cs => basicLines .on cs
  | _, '"' :: cs =>
    if startsWith 5 '"' cs then none
    else if startsWith 3 '"' cs then prepend (some '"') (basicLines .off cs)
    else if startsWith 2 '"' cs then some ([], cs.drop 2)
    else prepend (some '"') (basicLines .off cs)
  | _, '\\' :: 'x' :: a :: b :: cs => prepend (codePoint [a, b]) (basicLines .off cs)
  | _, '\\' :: 'u' :: a :: b :: c :: d :: cs => prepend (codePoint [a, b, c, d]) (basicLines .off cs)
  | _, '\\' :: 'U' :: a :: b :: c :: d :: e :: f :: g :: h :: cs =>
    prepend (codePoint [a, b, c, d, e, f, g, h]) (basicLines .off cs)
  | _, '\\' :: '\n' :: cs => basicLines .on cs
  | _, '\\' :: '\r' :: '\n' :: cs => basicLines .on cs
  | _, '\\' :: c :: cs =>
    if isBlankChar c then basicLines .pending cs else prepend (simpleEscape c) (basicLines .off cs)
  | .off, '\n' :: cs => prepend (some '\n') (basicLines .off cs)
  | .off, '\r' :: '\n' :: cs => prepend (some '\n') (basicLines .off cs)
  | .on, c :: cs =>
    if isBlankChar c then basicLines .on cs
    else if isForbidden c || c = '\\' then none
    else prepend (some c) (basicLines .off cs)
  | .off, c :: cs => if isForbidden c || c = '\\' then none else prepend (some c) (basicLines .off cs)

/-- The rest of a string between three single quotes. -/
def literalLines : List Char → Option (List Char × List Char)
  | [] => none
  | '\n' :: cs => prepend (some '\n') (literalLines cs)
  | '\r' :: '\n' :: cs => prepend (some '\n') (literalLines cs)
  | '\'' :: cs =>
    if startsWith 5 '\'' cs then none
    else if startsWith 3 '\'' cs then prepend (some '\'') (literalLines cs)
    else if startsWith 2 '\'' cs then some ([], cs.drop 2)
    else prepend (some '\'') (literalLines cs)
  | c :: cs => if isForbidden c then none else prepend (some c) (literalLines cs)

/-- The line end right after the opening quotes of a string of several lines does not count. -/
def skipFirstLineEnd : List Char → List Char
  | '\n' :: cs => cs
  | '\r' :: '\n' :: cs => cs
  | cs => cs

/-- A string with its quotes, if that is what comes first. -/
def readString : List Char → Option (List Char × List Char)
  | '"' :: '"' :: '"' :: cs => basicLines .off (skipFirstLineEnd cs)
  | '\'' :: '\'' :: '\'' :: cs => literalLines (skipFirstLineEnd cs)
  | '"' :: cs => basicString cs
  | '\'' :: cs => literalString cs
  | _ => none

/-! ## Numbers -/

/-- The digits of a run in which a single underscore may stand between two digits. -/
def digitRun (ok : Char → Bool) : List Char → Option (List Char)
  | [] => none
  | [c] => if ok c then some [c] else none
  | c :: '_' :: cs => if ok c then (digitRun ok cs).map (c :: ·) else none
  | c :: cs => if ok c then (digitRun ok cs).map (c :: ·) else none

def inRadix (radix : Nat) (c : Char) : Bool := (hexValue c).any (· < radix)

def radixValue (radix : Nat) (ds : List Char) : Nat :=
  ds.foldl (fun n c => radix * n + (hexValue c).getD 0) 0

/-- A sign in front of a number. -/
def splitSign : List Char → Bool × List Char
  | '-' :: cs => (true, cs)
  | '+' :: cs => (false, cs)
  | cs => (false, cs)

/-- Decimal digits without a zero in front of another digit. -/
def wholeDigits (cs : List Char) : Option (List Char) :=
  match digitRun (inRadix 10) cs with
  | some ('0' :: _ :: _) => none
  | ds => ds

def readInteger : List Char → Option Int
  | '0' :: 'x' :: cs => (digitRun (inRadix 16) cs).map fun ds => (radixValue 16 ds : Int)
  | '0' :: 'o' :: cs => (digitRun (inRadix 8) cs).map fun ds => (radixValue 8 ds : Int)
  | '0' :: 'b' :: cs => (digitRun (inRadix 2) cs).map fun ds => (radixValue 2 ds : Int)
  | cs =>
    let (negative, cs) := splitSign cs
    (wholeDigits cs).map fun ds => if negative then -(radixValue 10 ds : Int) else radixValue 10 ds

/-- The part of a number before a mark, and the part after it if there is one. -/
def splitAtMark (mark : Char → Bool) (cs : List Char) : List Char × Option (List Char) :=
  match cs.dropWhile (!mark ·) with
  | [] => (cs, none)
  | _ :: rest => (cs.takeWhile (!mark ·), some rest)

/-- A number with a fraction, an exponent or both; one that is too large for a finite number is malformed. -/
def readDecimal (cs : List Char) : Option Decimal.Binary64 :=
  let (negative, cs) := splitSign cs
  let (mantissa, exponent) := splitAtMark (fun c => c = 'e' || c = 'E') cs
  let (whole, fraction) := splitAtMark (· = '.') mantissa
  if fraction.isNone && exponent.isNone then none
  else
    let fraction := match fraction with
      | none => some []
      | some f => digitRun (inRadix 10) f
    let exponent : Option Int := match exponent with
      | none => some 0
      | some e =>
        let (negative, e) := splitSign e
        (digitRun (inRadix 10) e).map fun ds => if negative then -(radixValue 10 ds : Int) else radixValue 10 ds
    match wholeDigits whole, fraction, exponent with
    | some w, some f, some e =>
      match Decimal.Binary64.ofDecimal negative (radixValue 10 (w ++ f)) (e - f.length) with
      | .infinity _ => none
      | x => some x
    | _, _, _ => none

/-- The numbers that have a name. -/
def readSpecial (cs : List Char) : Option Decimal.Binary64 :=
  let (negative, cs) := splitSign cs
  if cs = ['i', 'n', 'f'] then some (.infinity negative)
  else if cs = ['n', 'a', 'n'] then some .nan
  else none

/-- The value of a word without quotes. -/
def readWord (cs : List Char) : Option Value :=
  if cs = "true".toList then some (.boolean true)
  else if cs = "false".toList then some (.boolean false)
  else
    match readInteger cs with
    | some n => some (.integer n)
    | none =>
      match readDatetime cs with
      | some d => some (.datetime d)
      | none => ((readSpecial cs).orElse fun _ => readDecimal cs).map .float

/-- Whether a word without quotes goes on. -/
def isWordChar (c : Char) : Bool := !(isBlankChar c || "\n\r,[]\x7b\x7d#\"'=".toList.contains c)

/-- The word that comes first; a date may be separated from its time by one blank. -/
def splitWord (cs : List Char) : List Char × List Char :=
  let word := cs.takeWhile isWordChar
  let rest := cs.dropWhile isWordChar
  match (readDate word).any (·.2.isEmpty), rest with
  | true, ' ' :: d :: more =>
    if d.isDigit then
      (word ++ ' ' :: (d :: more).takeWhile isWordChar, (d :: more).dropWhile isWordChar)
    else (word, rest)
  | _, _ => (word, rest)

end Conveyor.Toml
