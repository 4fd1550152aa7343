import Groundwork.Yaml.Character

/-!
# Characters in their places

A document is read as a list of glyphs: its characters, each with the line and the column where it
stands.  Indentation is then a matter of looking at a glyph, and a reader needs no position of its
own.

The ends of lines are made alike first: a carriage return, alone or before a line feed, and the
next-line control become line feeds.  The line separator and the paragraph separator stay.
-/

namespace Groundwork.Yaml

/-- A character and its place. -/
structure Glyph where
  char : Char
  line : Nat
  column : Nat
  deriving DecidableEq, Repr

/-- The characters that a document may hold. -/
def isReadable (c : Char) : Bool :=
  let n := c.toNat
  n = 0x9 || n = 0xA || n = 0xD || (0x20 ≤ n && n ≤ 0x7E) || n = 0x85
    || (0xA0 ≤ n && n ≠ 0xFFFE && n ≠ 0xFFFF)

/-- The text with its line ends made alike. -/
def unifyBreaks : List Char → List Char
  | '\r' :: '\n' :: rest => '\n' :: unifyBreaks rest
  | c :: rest => (if c = '\r' || c.toNat = 0x85 then '\n' else c) :: unifyBreaks rest
  | [] => []

/-- Characters put in their places, the first one on the given line and column. -/
def placeFrom (line column : Nat) : List Char → List Glyph
  | [] => []
  | c :: rest =>
    ⟨c, line, column⟩ ::
      if isBreak c then placeFrom (line + 1) 0 rest else placeFrom line (column + 1) rest

/-- The glyphs of a text, if all its characters may stand in a document. -/
def glyphs? (s : String) : Option (List Glyph) :=
  let cs := s.toList
  if cs.all isReadable then some (placeFrom 0 0 (unifyBreaks cs)) else none

/-- The character that comes next. -/
def next? (gs : List Glyph) : Option Char := gs.head?.map (·.char)

/-- Whether a blank, a tab, the end of a line or the end of the text comes next. -/
def isAtGap (gs : List Glyph) : Bool := isGap (next? gs)

/-- Whether the end of a line or of the text comes next. -/
def isAtLineEnd (gs : List Glyph) : Bool := (next? gs).all isBreak

/-- Whether a line starts here with the character three times and then a gap. -/
def isMarker (c : Char) (gs : List Glyph) : Bool :=
  match gs with
  | g₁ :: g₂ :: g₃ :: rest =>
    g₁.column = 0 && g₁.char = c && g₂.char = c && g₃.char = c && isAtGap rest
  | _ => false

/-- Whether a line starts here that opens or closes a document. -/
def isDocumentMarker (gs : List Glyph) : Bool := isMarker '-' gs || isMarker '.' gs

/-- The rest after the blanks and tabs. -/
def dropSpaces (gs : List Glyph) : List Glyph := gs.dropWhile fun g => isSpace g.char

/-- The rest after blanks and perhaps a comment, which must be at the end of a line; the end of the
line is left out too. -/
def endLine? (gs : List Glyph) : Option (List Glyph) :=
  let gs := dropSpaces gs
  let gs := if next? gs = some '#' then gs.dropWhile fun g => !isBreak g.char else gs
  if isAtLineEnd gs then some gs.tail else none

end Groundwork.Yaml
