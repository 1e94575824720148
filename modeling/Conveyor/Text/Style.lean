/-!
# Styled text

Colours and weights of terminal text. A styled text begins with an escape sequence and ends with the one that resets
everything; where the text itself resets, the style is taken up again.
-/

namespace Conveyor.Text

inductive Colour where
  | red
  | green
  | yellow
  | blue
  | magenta
  | cyan
deriving DecidableEq

/-- The number of a colour in an escape sequence. -/
def Colour.code : Colour → String
  | .red => "31"
  | .green => "32"
  | .yellow => "33"
  | .blue => "34"
  | .magenta => "35"
  | .cyan => "36"

structure Style where
  bold : Bool := false
  dimmed : Bool := false
  colour : Option Colour := none

namespace Style

/-- The numbers of a style, weights before the colour. -/
def codes (s : Style) : List String :=
  (if s.bold then ["1"] else []) ++ (if s.dimmed then ["2"] else []) ++ (s.colour.map Colour.code).toList

/-- The sequence that begins a style. -/
def start (s : Style) : String := "\x1b[" ++ ";".intercalate s.codes ++ "m"

/-- The sequence that ends every style. -/
def reset : String := "\x1b[0m"

/-- A text in a style; plain if `enabled` is false or the style asks for nothing. -/
def apply (s : Style) (enabled : Bool) (text : String) : String :=
  if enabled && !s.codes.isEmpty then
    s.start ++ (reset ++ s.start).intercalate (text.splitOn reset) ++ reset
  else text

end Style

end Conveyor.Text
