import Groundwork.Text.Digit
import Groundwork.Yaml.Glyph
import Groundwork.Yaml.Token

/-!
# Names, tags and directives

What follows an ampersand, an asterisk, an exclamation mark or, at the start of a line, a percent
sign.
-/

namespace Groundwork.Yaml

/-- A character of a name. -/
def isWordChar (c : Char) : Bool := c.isAlphanum || c = '_' || c = '-'

/-- The longest front of characters for which `p` holds, and the rest. -/
def readWhile (p : Char → Bool) (gs : List Glyph) : List Char × List Glyph :=
  ((gs.takeWhile fun g => p g.char).map (·.char), gs.dropWhile fun g => p g.char)

/-- Whether a name may end here. -/
def endsName (gs : List Glyph) : Bool :=
  isAtGap gs || (next? gs).any ("?:,]\x7d%@\x60".toList.contains ·)

/-- Reads the name of an anchor or an alias. -/
def readName? (gs : List Glyph) : Option (String × List Glyph) :=
  let (name, rest) := readWhile isWordChar gs
  if name.isEmpty || !endsName rest then none else some (String.ofList name, rest)

namespace Tag

/-- A character of a tag; `whole` says that commas and square brackets are allowed too. -/
def isTagChar (whole : Bool) (c : Char) : Bool :=
  isWordChar c || ";/?:@&=+$.!~*'()".toList.contains c || (whole && ",[]".toList.contains c)

/-- Reads the octets of a tag; a percent sign and two hexadecimal digits write one octet. -/
def readOctets (whole : Bool) : List Glyph → Option (List UInt8 × List Glyph)
  | [] => some ([], [])
  | g :: rest =>
    if g.char = '%' then
      match rest with
      | a :: b :: rest => do
        let octet ← digits? 16 [a.char, b.char]
        let (octets, rest) ← readOctets whole rest
        return (octet.toUInt8 :: octets, rest)
      | _ => none
    else if isTagChar whole g.char then do
      let (octets, rest) ← readOctets whole rest
      return (g.char.toNat.toUInt8 :: octets, rest)
    else some ([], g :: rest)

/-- Reads the text of a tag, which its octets encode. -/
def readText? (whole : Bool) (gs : List Glyph) : Option (String × List Glyph) := do
  let (octets, rest) ← readOctets whole gs
  let text ← String.fromUTF8? ⟨octets.toArray⟩
  return (text, rest)

/-- Reads a word after an exclamation mark, and perhaps a second mark; says whether that is
there. -/
def readHandle (gs : List Glyph) : List Char × Bool × List Glyph :=
  let (word, rest) := readWhile isWordChar gs
  if next? rest = some '!' then (word, true, rest.tail) else (word, false, rest)

/-- Reads a tag in angle brackets. -/
def readVerbatim? (gs : List Glyph) : Option (Token × List Glyph) := do
  let (text, rest) ← readText? true gs
  if text.isEmpty || next? rest ≠ some '>' then none
  return (.tag "" text, rest.tail)

/-- Reads a tag of the form `!suffix` or `!handle!suffix`. -/
def readShorthand? (gs : List Glyph) : Option (Token × List Glyph) := do
  let (word, isClosed, rest) := readHandle gs
  let (text, rest) ← readText? false rest
  if isClosed then
    if text.isEmpty then none
    return (.tag (String.ofList ('!' :: word ++ ['!'])) text, rest)
  else if word.isEmpty && text.isEmpty then return (.tag "" "!", rest)
  else return (.tag "!" (String.ofList word ++ text), rest)

/-- Reads a tag after its exclamation mark.  Only a gap may follow and, between brackets, a
comma. -/
def read? (inFlow : Bool) (gs : List Glyph) : Option (Token × List Glyph) := do
  let (token, rest) ←
    if next? gs = some '<' then readVerbatim? gs.tail else readShorthand? gs
  if isAtGap rest || (inFlow && next? rest = some ',') then some (token, rest) else none

end Tag

namespace Directive

/-- Reads a number of at most nine digits. -/
def readNumber? (gs : List Glyph) : Option (Nat × List Glyph) := do
  let (digits, rest) := readWhile Char.isDigit gs
  if 9 < digits.length then none
  let n ← digits? 10 digits
  return (n, rest)

/-- Reads a version. -/
def readVersion? (gs : List Glyph) : Option (Token × List Glyph) := do
  let (major, rest) ← readNumber? gs
  if next? rest ≠ some '.' then none
  let (minor, rest) ← readNumber? rest.tail
  return (.version major minor, rest)

/-- Reads a handle and what it stands for. -/
def readStem? (gs : List Glyph) : Option (Token × List Glyph) := do
  if next? gs ≠ some '!' then none
  let (word, isClosed, rest) := Tag.readHandle gs.tail
  if !isClosed && !word.isEmpty then none
  if !(next? rest).any isSpace then none
  let (stem, rest) ← Tag.readText? true (dropSpaces rest)
  if stem.isEmpty || !isAtGap rest then none
  let name := if isClosed then '!' :: word ++ ['!'] else ['!']
  return (.handle (String.ofList name) stem, rest)

/-- Reads a directive after its percent sign, up to the end of the line. -/
def read? (gs : List Glyph) : Option (Token × List Glyph) := do
  let (name, rest) := readWhile isWordChar gs
  if !isAtGap rest then none
  let (token, rest) ←
    if name = "YAML".toList then readVersion? (dropSpaces rest)
    else if name = "TAG".toList then readStem? (dropSpaces rest)
    else none
  let rest ← endLine? rest
  return (token, rest)

end Directive

end Groundwork.Yaml
