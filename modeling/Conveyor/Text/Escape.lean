import Conveyor.Text.Category

/-!
# Escaped text

How a text is shown inside a message, so that no character of it can act on a terminal or a log.

* NUL, tab, line feed, carriage return and the backslash have an escape of one letter, and so have the quotes that
  the style names.
* Any other character that does not print, and a mark where the style asks for it, is written `\u{…}` with its code
  point in lower-case hexadecimal.

`escape` shows a bare text: both quotes are escaped, and a mark only where it would attach to what stands before the
text. `quote` shows a text between double quotes: every mark is escaped, and single quotes stand for themselves.
-/

namespace Conveyor.Text

/-- What a style escapes besides the characters that never print. -/
structure EscapeStyle where
  singleQuote : Bool
  doubleQuote : Bool
  /-- Whether a mark that attaches to the character before it is escaped. -/
  extender : Bool

/-- Lower-case hexadecimal digits of a number, without leading zeros. -/
def hexDigits (n : Nat) : List Char := Nat.toDigits 16 n

/-- The escape by code point. -/
def unicodeEscape (c : Char) : List Char :=
  '\\' :: 'u' :: '\x7b' :: hexDigits c.toNat ++ ['\x7d']

/-- How one character is shown. -/
def escapeChar (style : EscapeStyle) (c : Char) : List Char :=
  if c = '\x00' then ['\\', '0']
  else if c = '\t' then ['\\', 't']
  else if c = '\r' then ['\\', 'r']
  else if c = '\n' then ['\\', 'n']
  else if c = '\\' then ['\\', '\\']
  else if c = '"' ∧ style.doubleQuote then ['\\', '"']
  else if c = '\'' ∧ style.singleQuote then ['\\', '\'']
  else if style.extender && isExtender c then unicodeEscape c
  else if isPrintable c then [c]
  else unicodeEscape c

/-- Between double quotes: a single quote needs no escape, and a mark could attach to the opening quote. -/
def quotedStyle : EscapeStyle := ⟨false, true, true⟩

/-- The first character of a bare text, where a mark could attach to what stands before it. -/
def leadingStyle : EscapeStyle := ⟨true, true, true⟩

/-- The other characters of a bare text. -/
def bareStyle : EscapeStyle := ⟨true, true, false⟩

/-- The characters of a bare text as shown in a message. -/
def escapeChars : List Char → List Char
  | [] => []
  | c :: cs => escapeChar leadingStyle c ++ cs.flatMap (escapeChar bareStyle)

/-- A bare text as shown in a message. -/
def escape (s : String) : String := String.ofList (escapeChars s.toList)

/-- A text between double quotes. -/
def quote (s : String) : String :=
  String.ofList ('"' :: s.toList.flatMap (escapeChar quotedStyle) ++ ['"'])

/-- Quoted texts between brackets, separated by a comma and a blank. -/
def quoteList (xs : List String) : String :=
  "[" ++ ", ".intercalate (xs.map quote) ++ "]"

end Conveyor.Text
