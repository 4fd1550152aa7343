import Groundwork.Decimal.Nearest
import Groundwork.Document.Node

/-!
# Numbers in JSON text

A number is read in one pass over its digits.  Digits are collected while they fit a word; integer
digits beyond that only move the point, and fraction digits beyond that are dropped.  A number
without fraction and exponent that fits a word is an integer; all else is a float.
-/

namespace Groundwork.Json

/-- The parts of a number as they stand in the text. -/
structure NumberText where
  negative : Bool
  whole : List Char
  fraction : Option (List Char)
  exponent : Option (Bool × List Char)

/-- The value of a decimal digit. -/
def digitValue (c : Char) : Nat := c.toNat - '0'.toNat

/-- The number that digits write. -/
def digitsValue (ds : List Char) : Nat :=
  ds.foldl (fun n d => 10 * n + digitValue d) 0

/-- Takes digits as long as the number fits a word; gives the number and the digits left. -/
def takeWord (n : Nat) : List Char → Nat × List Char
  | [] => (n, [])
  | d :: ds =>
    let m := 10 * n + digitValue d
    if m < UInt64.size then takeWord m ds else (n, d :: ds)

namespace NumberText

/-- Reads a minus sign, if there is one; says whether there is. -/
def sign : List Char → Bool × List Char
  | '-' :: rest => (true, rest)
  | cs => (false, cs)

/-- Reads digits, at least one. -/
def digitRun? (cs : List Char) : Option (List Char × List Char) :=
  let ds := cs.takeWhile Char.isDigit
  if ds.isEmpty then none else some (ds, cs.dropWhile Char.isDigit)

/-- Reads digits that do not start with a zero, or a single zero. -/
def whole? (cs : List Char) : Option (List Char × List Char) := do
  let (ds, rest) ← digitRun? cs
  if ds.head? = some '0' && ds.length ≠ 1 then none else some (ds, rest)

/-- Reads a point and the digits after it, if there is one. -/
def fraction? : List Char → Option (Option (List Char) × List Char)
  | '.' :: rest => (digitRun? rest).map fun (ds, rest) => (some ds, rest)
  | cs => some (none, cs)

/-- Reads the sign of an exponent, if there is one; says whether it is a minus. -/
def powerSign : List Char → Bool × List Char
  | '-' :: rest => (true, rest)
  | '+' :: rest => (false, rest)
  | cs => (false, cs)

/-- Reads the sign and the digits of an exponent. -/
def power? (cs : List Char) : Option (Option (Bool × List Char) × List Char) :=
  let (down, cs) := powerSign cs
  (digitRun? cs).map fun (ds, rest) => (some (down, ds), rest)

/-- Reads an exponent, if there is one. -/
def exponent? : List Char → Option (Option (Bool × List Char) × List Char)
  | 'e' :: rest => power? rest
  | 'E' :: rest => power? rest
  | cs => some (none, cs)

/-- Reads `-? (0 | [1-9][0-9]*) (. [0-9]+)? ([eE] [+-]? [0-9]+)?` from the front of a text. -/
def read? (cs : List Char) : Option (NumberText × List Char) := do
  let (negative, cs) := sign cs
  let (whole, cs) ← whole? cs
  let (fraction, cs) ← fraction? cs
  let (exponent, cs) ← exponent? cs
  return (⟨negative, whole, fraction, exponent⟩, cs)

end NumberText

/-- The size of a number as a float; `none` if it is too large. -/
def NumberText.size? (t : NumberText) : Option Float :=
  let (n, beyond) := takeWord 0 t.whole
  let (n, point) : Nat × Int := match t.fraction with
    | none => (n, beyond.length)
    | some ds =>
      let (m, dropped) := takeWord n ds
      (m, (beyond.length : Int) - ((ds.length : Int) - dropped.length))
  match t.exponent with
  | none => Decimal.scaled n.toUInt64 point
  | some (down, ds) =>
    let e := digitsValue ds
    if e < Nat.pow 2 31 then
      Decimal.scaled n.toUInt64 (if down then point - e else point + e)
    else if n ≠ 0 && !down then none
    else some 0

/-- What a number means. -/
def NumberText.toNode (t : NumberText) : Node :=
  let n := digitsValue t.whole
  let asFloat : Node := match t.size? with
    | some x => .decimal (if t.negative then -x else x)
    | none => .unreadable
  if t.fraction.isSome || t.exponent.isSome then asFloat
  else if t.negative then
    if n ≠ 0 ∧ n ≤ Nat.pow 2 63 then .integer (-n) else asFloat
  else if n < UInt64.size then .integer n
  else asFloat

end Groundwork.Json
