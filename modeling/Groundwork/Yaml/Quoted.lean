import Groundwork.Text.Digit
import Groundwork.Yaml.Gap
import Groundwork.Yaml.Glyph

/-!
# Quoted texts

The text between single quotes, where a quote is written twice, and the text between double quotes,
where a backslash starts an escape.  Both fold their gaps, and neither may hold a line that opens or
closes a document.
-/

namespace Groundwork.Yaml.Quoted

/-- The characters before a gap with those of the gap, the last one first. -/
def join (out : List Char) (gap : Gap) : List Char := gap.text.reverse ++ out

/-- Reads up to the closing single quote.  `out` holds the characters before the gap, the last one
first. -/
def readSingle (out : List Char) (gap : Gap) : List Glyph → Option (String × List Glyph)
  | [] => none
  | g :: rest =>
    if isDocumentMarker (g :: rest) then none
    else if isSpace g.char then readSingle out (gap.addSpace g.char) rest
    else if isBreak g.char then readSingle out (gap.addBreak g.char) rest
    else if g.char = '\'' then
      match rest with
      | [] => some (String.ofList (join out gap).reverse, [])
      | g' :: rest =>
        if g'.char = '\'' then readSingle ('\'' :: join out gap) .none rest
        else some (String.ofList (join out gap).reverse, g' :: rest)
    else readSingle (g.char :: join out gap) .none rest

/-- What an escape stands for. -/
inductive Escape where
  | char (c : Char)
  /-- The character whose code follows in so many hexadecimal digits. -/
  | code (digits : Nat)

/-- The escape that a letter after a backslash names. -/
def escape? (c : Char) : Option Escape :=
  match c with
  | '0' => some (.char (Char.ofNat 0x0))
  | 'a' => some (.char (Char.ofNat 0x7))
  | 'b' => some (.char (Char.ofNat 0x8))
  | 't' => some (.char '\t')
  | '\t' => some (.char '\t')
  | 'n' => some (.char '\n')
  | 'v' => some (.char (Char.ofNat 0xB))
  | 'f' => some (.char (Char.ofNat 0xC))
  | 'r' => some (.char '\r')
  | 'e' => some (.char (Char.ofNat 0x1B))
  | ' ' => some (.char ' ')
  | '"' => some (.char '"')
  | '/' => some (.char '/')
  | '\\' => some (.char '\\')
  | 'N' => some (.char (Char.ofNat 0x85))
  | '_' => some (.char (Char.ofNat 0xA0))
  | 'L' => some (.char (Char.ofNat 0x2028))
  | 'P' => some (.char (Char.ofNat 0x2029))
  | 'x' => some (.code 2)
  | 'u' => some (.code 4)
  | 'U' => some (.code 8)
  | _ => none

/-- Where a reader between double quotes is. -/
inductive DoubleState where
  | text
  /-- Right after a backslash. -/
  | escape
  /-- Within a character code of which so many digits are to come. -/
  | code (digits value : Nat)

/-- Reads up to the closing double quote.  `out` holds the characters before the gap, the last one
first. -/
def readDouble (state : DoubleState) (out : List Char) (gap : Gap) :
    List Glyph → Option (String × List Glyph)
  | [] => none
  | g :: rest =>
    match state with
    | .code digits value =>
      match digit? 16 g.char with
      | none => none
      | some d =>
        if digits ≤ 1 then
          match scalarChar? (16 * value + d) with
          | none => none
          | some c => readDouble .text (c :: out) .none rest
        else readDouble (.code (digits - 1) (16 * value + d)) out .none rest
    | .escape =>
      if isBreak g.char then readDouble .text out (.breaks none []) rest
      else
        match escape? g.char with
        | none => none
        | some (.char c) => readDouble .text (c :: out) .none rest
        | some (.code digits) => readDouble (.code digits 0) out .none rest
    | .text =>
      if isDocumentMarker (g :: rest) then none
      else if isSpace g.char then readDouble .text out (gap.addSpace g.char) rest
      else if isBreak g.char then readDouble .text out (gap.addBreak g.char) rest
      else if g.char = '"' then some (String.ofList (join out gap).reverse, rest)
      else if g.char = '\\' then readDouble .escape (join out gap) .none rest
      else readDouble .text (g.char :: join out gap) .none rest

end Groundwork.Yaml.Quoted
