import Groundwork.Text.Digit
import Groundwork.Yaml.Glyph

/-!
# Block texts

A block text stands on lines of its own, indented by the same width.  A literal block keeps its
lines; a folded block joins lines that neither start with a blank nor have an empty line between
them.  The header says what becomes of the line ends at the end of the text and may give the
indentation, which is otherwise that of the first line that is not empty.
-/

namespace Groundwork.Yaml.Block

/-- What becomes of the line ends at the end of the text. -/
inductive Chomping where
  /-- All are dropped. -/
  | strip
  /-- One is kept. -/
  | clip
  /-- All are kept. -/
  | keep
  deriving DecidableEq, Repr

/-- What the header says; `step` is the indentation relative to the block around. -/
structure Header where
  chomping : Chomping
  step : Option Nat

/-- The way of chomping that a sign names. -/
def chomping? (c : Char) : Option Chomping :=
  if c = '+' then some .keep else if c = '-' then some .strip else none

/-- The width that a digit gives; zero is none. -/
def step? (c : Char) : Option Nat :=
  if c.isDigit && c ≠ '0' then digit? 10 c else none

/-- Reads the two marks of a header, which may come in either order. -/
def readMarks (gs : List Glyph) : Header × List Glyph :=
  match gs with
  | [] => (⟨.clip, none⟩, [])
  | g :: rest =>
    match chomping? g.char, step? g.char with
    | some chomping, _ =>
      match (next? rest).bind step? with
      | some step => (⟨chomping, some step⟩, rest.tail)
      | none => (⟨chomping, none⟩, rest)
    | none, some step =>
      match (next? rest).bind chomping? with
      | some chomping => (⟨chomping, some step⟩, rest.tail)
      | none => (⟨.clip, some step⟩, rest)
    | none, none => (⟨.clip, none⟩, g :: rest)

/-- The width of the widest indentation before the first line that is not empty; fails if a tab
stands in it. -/
def widestIndent? (widest : Nat) : List Glyph → Option Nat
  | [] => some widest
  | g :: rest =>
    if g.char = ' ' then widestIndent? widest rest
    else if g.char = '\t' then none
    else if isBreak g.char then widestIndent? (max widest g.column) rest
    else some (max widest g.column)

/-- The indentation of the block whose header stands within a block at column `outer`. -/
def indent? (outer : Option Nat) (h : Header) (gs : List Glyph) : Option Nat :=
  match h.step with
  | some step => some ((outer.getD 0) + step)
  | none => do
    let least := match outer with
      | some column => column + 1
      | none => 1
    return max least (← widestIndent? 0 gs)

/-- What is read of a block so far. -/
structure State where
  /-- The characters of the lines before, the last one first. -/
  out : List Char
  /-- Whether a line is being read. -/
  inLine : Bool
  /-- Whether the last line starts with a blank. -/
  startsBlank : Bool
  /-- The end of the last line. -/
  lineEnd : Option Char
  /-- The ends of the empty lines after it. -/
  emptyLines : List Char

namespace State

def start : State := ⟨[], false, false, none, []⟩

/-- What stands for the end of the last line where another line, which starts with `c`, follows. -/
def joint (s : State) (folded : Bool) (c : Char) : List Char :=
  if folded && s.lineEnd = some '\n' && !s.startsBlank && !isSpace c then
    if s.emptyLines.isEmpty then [' '] else []
  else s.lineEnd.toList

/-- A new line starts with `c`. -/
def openLine (s : State) (folded : Bool) (c : Char) : State where
  out := c :: ((s.joint folded c ++ s.emptyLines).reverse ++ s.out)
  inLine := true
  startsBlank := isSpace c
  lineEnd := none
  emptyLines := []

/-- The text of the block. -/
def text (s : State) : Chomping → String
  | .strip => String.ofList s.out.reverse
  | .clip => String.ofList (s.out.reverse ++ s.lineEnd.toList)
  | .keep => String.ofList (s.out.reverse ++ s.lineEnd.toList ++ s.emptyLines)

end State

/-- Reads the lines of a block at a column. -/
def readLines (folded : Bool) (indent : Nat) (s : State) :
    List Glyph → Option (State × List Glyph)
  | [] => some (s, [])
  | g :: rest =>
    if s.inLine then
      if isBreak g.char then
        readLines folded indent { s with inLine := false, lineEnd := some g.char } rest
      else readLines folded indent { s with out := g.char :: s.out } rest
    else if g.char = ' ' && g.column < indent then readLines folded indent s rest
    else if g.char = '\t' && g.column < indent then none
    else if isBreak g.char then
      readLines folded indent { s with emptyLines := s.emptyLines ++ [g.char] } rest
    else if g.column = indent then readLines folded indent (s.openLine folded g.char) rest
    else some (s, g :: rest)

/-- Reads a block text after its first sign. -/
def read (folded : Bool) (outer : Option Nat) (gs : List Glyph) :
    Option (String × List Glyph) := do
  let (header, gs) := readMarks gs
  let gs ← endLine? gs
  let indent ← indent? outer header gs
  let (s, rest) ← readLines folded indent .start gs
  return (s.text header.chomping, rest)

end Groundwork.Yaml.Block
