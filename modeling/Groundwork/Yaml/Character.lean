/-!
# Characters of YAML

The classes of characters that decide how a text is written and how a document is read.
-/

namespace Groundwork.Yaml

/-- A character that ends a line. -/
def isBreak (c : Char) : Bool :=
  c = '\n' || c = '\r' || c.toNat = 0x85 || c.toNat = 0x2028 || c.toNat = 0x2029

/-- A blank or a tab. -/
def isSpace (c : Char) : Bool := c = ' ' || c = '\t'

/-- Whether what comes next, if anything does, is a blank, a tab or the end of a line.  A null
character counts as an end. -/
def isGap : Option Char → Bool
  | none => true
  | some c => isSpace c || isBreak c || c.toNat = 0

/-- A character that is written as it is.  The rest is written by escapes. -/
def isPrintable (c : Char) : Bool :=
  let n := c.toNat
  n = 0xA || (0x20 ≤ n && n ≤ 0x7E) || (0xA0 ≤ n && n ≠ 0xFEFF && n ≠ 0xFFFE && n ≠ 0xFFFF)

end Groundwork.Yaml
