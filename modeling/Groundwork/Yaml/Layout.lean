import Groundwork.Yaml.Block
import Groundwork.Yaml.Mark
import Groundwork.Yaml.Plain
import Groundwork.Yaml.Quoted

/-!
# The layout of a document

Turning glyphs into tokens.  Indentation opens and closes lists and tables outside of brackets, and
a word becomes a key once a colon follows it: the layout remembers, for each pair of brackets that
is open, the last place where a key may have started, and puts the marks of the key there when the
colon comes.
-/

namespace Groundwork.Yaml

/-- A place where a key may have started. -/
structure KeyPlace where
  /-- The number of tokens before it. -/
  index : Nat
  line : Nat
  column : Nat
  /-- Whether the indentation says that a key must stand there. -/
  isRequired : Bool

/-- A key and its colon are on one line, at most so many characters apart. -/
def KeyPlace.reach : Nat := 1024

/-- Whether a colon at a place can belong to the key. -/
def KeyPlace.reaches (k : KeyPlace) (g : Glyph) : Bool :=
  k.line = g.line && g.column ≤ k.column + KeyPlace.reach

/-- The tokens read so far, and what decides about the next ones. -/
structure Layout where
  tokens : Array Token
  /-- The columns of the open lists and tables by indentation, the innermost first. -/
  indents : List Nat
  /-- Whether a key may start here. -/
  allowsKey : Bool
  /-- The last place where a key may have started within the innermost brackets. -/
  candidate : Option KeyPlace
  /-- The same for the brackets around, the innermost first; outside of brackets comes last. -/
  outer : List (Option KeyPlace)

namespace Layout

/-- The layout before the first token. -/
def start : Layout where
  tokens := #[]
  indents := []
  allowsKey := true
  candidate := none
  outer := []

variable (l : Layout)

/-- Whether brackets are open. -/
def inFlow : Bool := !l.outer.isEmpty

def push (t : Token) : Layout := { l with tokens := l.tokens.push t }

/-- Whether the innermost list or table by indentation starts left of a column. -/
def isLeftOf (column : Nat) : Bool := l.indents.head?.all (· < column)

/-- Opens a list or table at a column, if none is open there; its token is put at an index. -/
def openBlock (column index : Nat) (t : Token) : Layout :=
  if !l.inFlow && l.isLeftOf column then
    { l with indents := column :: l.indents, tokens := l.tokens.insertIdxIfInBounds index t }
  else l

/-- Closes the lists and tables by indentation for whose column `p` holds, from the innermost. -/
def closeBlocks (p : Nat → Bool) : Layout :=
  if l.inFlow then l
  else
    { l with
      indents := l.indents.dropWhile p
      tokens := l.tokens ++ ((l.indents.takeWhile p).map fun _ => Token.blockEnd) }

/-- Gives up the candidate; fails if a key must be there. -/
def dropCandidate? : Option Layout :=
  if l.candidate.any (·.isRequired) then none else some { l with candidate := none }

/-- Takes this place as the candidate, if a key may start here. -/
def markCandidate? (g : Glyph) : Option Layout := do
  if !l.allowsKey then return l
  let l ← l.dropCandidate?
  let place : KeyPlace := {
    index := l.tokens.size
    line := g.line
    column := g.column
    isRequired := !l.inFlow && l.indents.head? = some g.column }
  return { l with candidate := some place }

/-- Reads a mark that stands between documents. -/
def readBoundary? (t : Token) : Option Layout := do
  let l ← (l.closeBlocks fun _ => true).dropCandidate?
  return { l.push t with allowsKey := false }

/-- Reads an opening bracket. -/
def readOpening? (t : Token) (g : Glyph) : Option Layout := do
  let l ← l.markCandidate? g
  return { l.push t with allowsKey := true, candidate := none, outer := l.candidate :: l.outer }

/-- Reads a closing bracket. -/
def readClosing? (t : Token) : Option Layout := do
  let l ← l.dropCandidate?
  let l := { l.push t with allowsKey := false }
  match l.outer with
  | candidate :: outer => return { l with candidate := candidate, outer := outer }
  | [] => return l

/-- Reads a comma. -/
def readComma? : Option Layout := do
  let l ← l.dropCandidate?
  return { l.push .comma with allowsKey := true }

/-- Opens a list or table by indentation for a sign, which must stand where a key may start. -/
def openFor? (t : Token) (g : Glyph) : Option Layout :=
  if l.inFlow then some l
  else if l.allowsKey then some (l.openBlock g.column l.tokens.size t)
  else none

/-- Reads the dash before an item. -/
def readItem? (g : Glyph) : Option Layout := do
  let l ← (← l.openFor? .blockList g).dropCandidate?
  return { l.push .item with allowsKey := true }

/-- Reads the question mark before a key. -/
def readKey? (g : Glyph) : Option Layout := do
  let l ← (← l.openFor? .blockTable g).dropCandidate?
  return { l.push .key with allowsKey := !l.inFlow }

/-- Reads a colon. -/
def readValue? (g : Glyph) : Option Layout := do
  let l ← if l.candidate.all (·.reaches g) then some l else l.dropCandidate?
  match l.candidate with
  | some place =>
    let l := { l with tokens := l.tokens.insertIdxIfInBounds place.index .key }
    let l := l.openBlock place.column place.index .blockTable
    return { l.push .value with allowsKey := false, candidate := none }
  | none =>
    let l ← l.openFor? .blockTable g
    return { l.push .value with allowsKey := !l.inFlow }

/-- Reads a token that can be a key or stand before one. -/
def readWord? (t : Token) (g : Glyph) : Option Layout := do
  let l ← l.markCandidate? g
  return { l.push t with allowsKey := false }

/-- Reads a block text. -/
def readBlock? (t : Token) : Option Layout := do
  let l ← l.dropCandidate?
  return { l.push t with allowsKey := true }

/-- Leaves out blanks, comments, line ends and a mark of the byte order at the very start. -/
def skip (l : Layout) (inComment : Bool) : List Glyph → Layout × List Glyph
  | [] => (l, [])
  | g :: rest =>
    if isBreak g.char then skip { l with allowsKey := l.allowsKey || !l.inFlow } false rest
    else if inComment then skip l true rest
    else if g.char = ' ' || (g.char = '\t' && (l.inFlow || !l.allowsKey)) then skip l false rest
    else if g.char.toNat = 0xFEFF && g.line = 0 && g.column = 0 then skip l false rest
    else if g.char = '#' then skip l true rest
    else (l, g :: rest)

/-- Whether a plain text can start with `c`, `rest` following. -/
def startsPlain (c : Char) (rest : List Glyph) : Bool :=
  if c = '-' then !(next? rest).any isSpace
  else if c = '?' || c = ':' then !l.inFlow && !isAtGap rest
  else !",[]\x7b\x7d#&*!|>'\"%@\x60".toList.contains c

/-- Reads a plain text. -/
def readPlain? (g : Glyph) (rest : List Glyph) : Option (Layout × List Glyph) := do
  let indent := match l.indents.head? with
    | some column => column + 1
    | none => 0
  let r ← Plain.read ⟨l.inFlow, indent⟩ [] .none (g :: rest)
  let l ← l.readWord? (.scalar .plain r.text) g
  return ({ l with allowsKey := l.allowsKey || r.isBroken }, r.rest)

/-- Reads the token that starts with a glyph. -/
def readToken? (g : Glyph) (rest : List Glyph) : Option (Layout × List Glyph) := do
  let l := l.closeBlocks (g.column < ·)
  let c := g.char
  if g.column = 0 && c = '%' then
    let (t, rest) ← Directive.read? rest
    return (← l.readBoundary? t, rest)
  else if isMarker '-' (g :: rest) then return (← l.readBoundary? .documentStart, rest.drop 2)
  else if isMarker '.' (g :: rest) then return (← l.readBoundary? .documentEnd, rest.drop 2)
  else if c = '[' then return (← l.readOpening? .listOpen g, rest)
  else if c = '\x7b' then return (← l.readOpening? .tableOpen g, rest)
  else if c = ']' then return (← l.readClosing? .listClose, rest)
  else if c = '\x7d' then return (← l.readClosing? .tableClose, rest)
  else if c = ',' then return (← l.readComma?, rest)
  else if c = '-' && isAtGap rest then return (← l.readItem? g, rest)
  else if c = '?' && (l.inFlow || isAtGap rest) then return (← l.readKey? g, rest)
  else if c = ':' && (l.inFlow || isAtGap rest) then return (← l.readValue? g, rest)
  else if c = '*' then
    let (name, rest) ← readName? rest
    return (← l.readWord? (.alias name) g, rest)
  else if c = '&' then
    let (name, rest) ← readName? rest
    return (← l.readWord? (.anchor name) g, rest)
  else if c = '!' then
    let (t, rest) ← Tag.read? l.inFlow rest
    return (← l.readWord? t g, rest)
  else if (c = '|' || c = '>') && !l.inFlow then
    let (text, rest) ← Block.read (c = '>') l.indents.head? rest
    let style := if c = '|' then ScalarStyle.literal else .quoted
    return (← l.readBlock? (.scalar style text), rest)
  else if c = '\'' then
    let (text, rest) ← Quoted.readSingle [] .none rest
    return (← l.readWord? (.scalar .quoted text) g, rest)
  else if c = '"' then
    let (text, rest) ← Quoted.readDouble .text [] .none rest
    return (← l.readWord? (.scalar .quoted text) g, rest)
  else if l.startsPlain c rest then l.readPlain? g rest
  else none

/-- The tokens of the rest of a document, of at most `fuel` tokens. -/
def finish? (fuel : Nat) (l : Layout) (gs : List Glyph) : Option (List Token) :=
  match l.skip false gs with
  | (l, []) => do
    let l ← (l.closeBlocks fun _ => true).dropCandidate?
    return l.tokens.toList
  | (l, g :: rest) =>
    match fuel with
    | 0 => none
    | fuel + 1 => do
      let (l, rest) ← l.readToken? g rest
      finish? fuel l rest

end Layout

/-- The tokens of a document. -/
def tokens? (gs : List Glyph) : Option (List Token) := Layout.start.finish? gs.length gs

end Groundwork.Yaml
