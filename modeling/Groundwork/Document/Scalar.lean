import Groundwork.Decimal.Nearest
import Groundwork.Decimal.Numeral
import Groundwork.Document.Node
import Groundwork.Text.Digit

/-!
# What YAML scalars mean

A plain scalar, and a literal block with the tag of the wanted type, can be a truth value, a whole
number or a float; every scalar can be a text.  Quoting makes a scalar a text and nothing else.
-/

namespace Groundwork.Scalar

def nullTag : String := "tag:yaml.org,2002:null"
def boolTag : String := "tag:yaml.org,2002:bool"
def intTag : String := "tag:yaml.org,2002:int"
def floatTag : String := "tag:yaml.org,2002:float"

/-- The words for nothing. -/
def isNullWord (s : String) : Bool :=
  s = "null" || s = "Null" || s = "NULL" || s = "~"

/-- Whether the scalar is a place where nothing was written. -/
def isBlank (s : Scalar) : Bool :=
  s.style = .plain && s.text.isEmpty

/-- Whether the scalar can be a value of the type with that tag. -/
def fits (s : Scalar) (tag : String) : Bool :=
  match s.style with
  | .plain => true
  | .literal => s.tag = some tag
  | .quoted => false

/-- A truth value in one of its three spellings. -/
def truth? (s : Scalar) : Option Bool :=
  if !s.fits boolTag then none
  else if s.text = "true" || s.text = "True" || s.text = "TRUE" then some true
  else if s.text = "false" || s.text = "False" || s.text = "FALSE" then some false
  else none

/-- The text without one plus sign at its front. -/
def dropPlus : List Char → List Char
  | '+' :: rest => rest
  | cs => cs

/-- Whether a row of digits is kept from being a number by a zero at its front. -/
def isPaddedDigits (cs : List Char) : Bool :=
  let cs := match cs with
    | '-' :: rest => rest
    | '+' :: rest => rest
    | _ => cs
  1 < cs.length && cs.head? = some '0' && cs.tail.all Char.isDigit

/-- A whole number that is not negative: decimal, `0x`, `0o` or `0b`, perhaps after a plus sign. -/
def natural? (s : Scalar) : Option Nat :=
  let cs := s.text.toList
  if !s.fits intTag then none
  else
    match dropPlus cs with
    | '0' :: 'x' :: rest => digits? 16 rest
    | '0' :: 'o' :: rest => digits? 8 rest
    | '0' :: 'b' :: rest => digits? 2 rest
    | rest => if isPaddedDigits cs then none else digits? 10 rest

/-- A finite float in decimal notation, perhaps after a minus sign. -/
def finite? (cs : List Char) : Option Float := do
  let (negative, cs) := match cs with
    | '-' :: rest => (true, rest)
    | _ => (false, cs)
  let x := (← Decimal.ofNumeral? cs).nearest
  if x.isInf then none else some (if negative then -x else x)

/-- A float: decimal notation, perhaps after a sign, or one of the words for the infinities and for
what is not a number. -/
def float? (s : Scalar) : Option Float :=
  let text := s.text
  let rest := String.ofList (dropPlus text.toList)
  if !s.fits floatTag then none
  else if rest = ".inf" || rest = ".Inf" || rest = ".INF" then some (1 / 0)
  else if text = "-.inf" || text = "-.Inf" || text = "-.INF" then some (-1 / 0)
  else if text = ".nan" || text = ".NaN" || text = ".NAN" then some (0 / 0)
  else
    match text.toList with
    | '+' :: '-' :: _ => none
    | cs => finite? (dropPlus cs)

end Groundwork.Scalar
