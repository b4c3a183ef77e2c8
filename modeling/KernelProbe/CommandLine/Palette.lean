import KernelProbe.CommandLine.Options
import KernelProbe.Text.Split
import KernelProbe.Text.Style

/-!
# The styles of the command line

How the help and the reports about a command line set off their parts from one another: by what a
part is, not by what it says. Placeholders of values have no style of their own.
-/

namespace KernelProbe.CommandLine

namespace Palette

/-- The heading of a part of the help. -/
def heading : Text.Style := ⟨["1", "4"]⟩

/-- What is to be typed as it stands. -/
def literal : Text.Style := ⟨["1"]⟩

/-- The announcement of a mistake. -/
def alarm : Text.Style := ⟨["1", "31"]⟩

/-- What is wrong. -/
def wrong : Text.Style := ⟨["33"]⟩

/-- What would be right. -/
def right : Text.Style := ⟨["32"]⟩

end Palette

/-- A name as it is typed, and the placeholder of its value. -/
def styledName (s : Switch) : String :=
  Palette.literal.enclose ("--" ++ s.longName) ++ s.valueText

/-- How the program is used with what is named, or in general if nothing is. -/
def usageLine (named : List String) : String :=
  let named := if named.isEmpty then ["[OPTIONS]"] else named
  Palette.heading.enclose "Usage:" ++ " "
    ++ Text.join " " (Palette.literal.enclose "sysprobe" :: named)

end KernelProbe.CommandLine
