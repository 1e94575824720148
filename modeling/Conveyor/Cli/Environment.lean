/-!
# The environment of a run

Three variables and the kind of standard output decide whether styles take effect where the program asks for them: one
variable forces them, one forbids them, and otherwise a terminal has them unless the third says no. A variable with the
value `0` counts as a no.
-/

namespace Conveyor.Cli

structure Environment where
  clicolorForce : Option String := none
  noColor : Option String := none
  clicolor : Option String := none
  /-- Whether standard output is a terminal. -/
  terminal : Bool := false

namespace Environment

/-- Whether styles take effect. -/
def stylesEnabled (e : Environment) : Bool :=
  if e.clicolorForce.any (· ≠ "0") then true
  else if e.noColor.isSome then false
  else e.clicolor.all (· ≠ "0") && e.terminal

end Environment

end Conveyor.Cli
