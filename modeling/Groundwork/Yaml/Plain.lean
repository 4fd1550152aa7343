import Groundwork.Yaml.Gap
import Groundwork.Yaml.Glyph

/-!
# Plain texts

A text without quotes ends at a colon or a comment that a gap sets off, at a line that is indented
too little, at a line that opens or closes a document and, between brackets, at the brackets and
commas.
-/

namespace Groundwork.Yaml.Plain

/-- The characters that end a plain text between brackets. -/
def isFlowIndicator (c : Char) : Bool :=
  c = ',' || c = '[' || c = ']' || c = '\x7b' || c = '\x7d'

/-- Where a plain text stands. -/
structure Place where
  /-- Whether it stands between brackets. -/
  inFlow : Bool
  /-- The least column of its further lines, outside of brackets. -/
  indent : Nat

/-- What is read of a plain text, and whether a line end follows it. -/
structure Reading where
  text : String
  isBroken : Bool
  rest : List Glyph

/-- Whether the text ends before these glyphs, of which the first is neither blank nor line end. -/
def ends (p : Place) (gap : Gap) (g : Glyph) (rest : List Glyph) : Bool :=
  (gap.isBroken && !p.inFlow && g.column < p.indent)
    || isDocumentMarker (g :: rest)
    || (g.char = '#' && gap ≠ .none)
    || (g.char = ':' && isAtGap rest)
    || (p.inFlow && isFlowIndicator g.char)

/-- Whether a colon stands here that may not stand between brackets. -/
def isMisplaced (p : Place) (g : Glyph) (rest : List Glyph) : Bool :=
  p.inFlow && g.char = ':' && (next? rest).any fun c => isFlowIndicator c || c = '?'

/-- Reads a plain text.  `out` holds the characters before the gap, the last one first. -/
def read (p : Place) (out : List Char) (gap : Gap) : List Glyph → Option Reading
  | [] => some ⟨String.ofList out.reverse, gap.isBroken, []⟩
  | g :: rest =>
    if isSpace g.char then
      if gap.isBroken && g.char = '\t' && g.column < p.indent then none
      else read p out (gap.addSpace g.char) rest
    else if isBreak g.char then read p out (gap.addBreak g.char) rest
    else if ends p gap g rest then some ⟨String.ofList out.reverse, gap.isBroken, g :: rest⟩
    else if isMisplaced p g rest then none
    else read p (g.char :: (gap.text.reverse ++ out)) .none rest

end Groundwork.Yaml.Plain
