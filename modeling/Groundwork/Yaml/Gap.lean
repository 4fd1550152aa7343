import Groundwork.Yaml.Character

/-!
# Gaps in flowing text

Plain and quoted texts may run over several lines.  Between two words stands a gap: blanks on one
line, which are kept, or line ends with indentation, which fold.  One line end folds to a blank;
of several the first disappears.
-/

namespace Groundwork.Yaml

/-- What stands between two words. -/
inductive Gap where
  /-- Blanks on one line, or nothing. -/
  | blanks (cs : List Char)
  /-- Line ends: the first, which is absent if it was escaped, and the others. -/
  | breaks (first : Option Char) (others : List Char)
  deriving DecidableEq, Repr

namespace Gap

/-- No gap. -/
def none : Gap := .blanks []

/-- The gap with one more blank.  Blanks beside a line end do not count. -/
def addSpace (c : Char) : Gap → Gap
  | .blanks cs => .blanks (cs ++ [c])
  | gap => gap

/-- The gap with one more line end. -/
def addBreak (c : Char) : Gap → Gap
  | .blanks _ => .breaks (some c) []
  | .breaks first others => .breaks first (others ++ [c])

/-- Whether there is a line end in the gap. -/
def isBroken : Gap → Bool
  | .blanks _ => false
  | .breaks _ _ => true

/-- The text that a gap stands for. -/
def text : Gap → List Char
  | .blanks cs => cs
  | .breaks (some '\n') [] => [' ']
  | .breaks (some '\n') others => others
  | .breaks first others => first.toList ++ others

end Gap

end Groundwork.Yaml
