import Groundwork.Decimal.Nearest
import Groundwork.Decimal.Numeral
import Groundwork.Document.Node

/-!
# Numbers

Integers of 64 bits, decimal or after a word that names another base, and floats.  An underscore may
stand between two digits.
-/

namespace Groundwork.Toml.Number

/-- Reads digits, at least one, with single underscores between them; gives the digits. -/
def readDigits? (isDigit : Char → Bool) : List Char → Option (List Char × List Char)
  | [] => none
  | c :: rest =>
    if isDigit c then
      match rest with
      | '_' :: more => (readDigits? isDigit more).map fun (ds, more) => (c :: ds, more)
      | rest =>
        match readDigits? isDigit rest with
        | some (ds, rest) => some (c :: ds, rest)
        | none => some ([c], rest)
    else none

/-- Reads a sign, if there is one; says whether it is a minus sign. -/
def readSign : List Char → Bool × List Char
  | '-' :: rest => (true, rest)
  | '+' :: rest => (false, rest)
  | cs => (false, cs)

/-- Reads decimal digits that do not start with a zero, or a zero alone. -/
def readWhole? : List Char → Option (List Char × List Char)
  | '0' :: rest => some (['0'], rest)
  | cs => readDigits? Char.isDigit cs

/-- Reads a point and digits, if there is a point. -/
def readFraction? : List Char → Option (List Char × List Char)
  | '.' :: rest => (readDigits? Char.isDigit rest).map fun (ds, rest) => ('.' :: ds, rest)
  | cs => some ([], cs)

/-- Reads an exponent, if there is one. -/
def readExponent? (cs : List Char) : Option (List Char × List Char) :=
  match cs with
  | c :: rest =>
    if c = 'e' || c = 'E' then
      let (negative, rest) := readSign rest
      (readDigits? Char.isDigit rest).map fun (ds, rest) =>
        ('e' :: (if negative then ['-'] else []) ++ ds, rest)
    else some ([], cs)
  | [] => some ([], [])

/-- The float with a sign. -/
def signed (negative : Bool) (x : Float) : Float := if negative then -x else x

/-- Reads a word for an infinity or for what is not a number. -/
def readSpecial? (negative : Bool) : List Char → Option (Node × List Char)
  | 'i' :: 'n' :: 'f' :: rest => some (.decimal (signed negative (1 / 0)), rest)
  | 'n' :: 'a' :: 'n' :: rest => some (.decimal (signed negative (0 / 0)), rest)
  | _ => none

/-- Reads a float with a fraction or an exponent.  One that is too large is refused, and one that
is too small is the negative infinity. -/
def readFloat? (cs : List Char) : Option (Node × List Char) := do
  let (negative, cs) := readSign cs
  let (whole, rest) ← readWhole? cs
  let (fraction, rest) ← readFraction? rest
  let (exponent, rest) ← readExponent? rest
  if fraction.isEmpty && exponent.isEmpty then none
  let x := (← Decimal.ofNumeral? (whole ++ fraction ++ exponent)).nearest
  if x.isInf && !negative then none
  return (.decimal (signed negative x), rest)

/-- Whether an integer fits 64 bits. -/
def fits (n : Int) : Bool := Int64.minValue.toInt ≤ n && n ≤ Int64.maxValue.toInt

/-- The integer, if it fits 64 bits. -/
def integer? (n : Int) : Option Node := if fits n then some (.integer n) else none

/-- Reads an integer in another base than ten. -/
def readBased? (base : Nat) (cs : List Char) : Option (Node × List Char) := do
  let (digits, rest) ← readDigits? (fun c => (digit? base c).isSome) cs
  return (← integer? (← digits? base digits), rest)

/-- Reads an integer. -/
def readInteger? : List Char → Option (Node × List Char)
  | '0' :: 'x' :: rest => readBased? 16 rest
  | '0' :: 'o' :: rest => readBased? 8 rest
  | '0' :: 'b' :: rest => readBased? 2 rest
  | cs => do
    let (negative, cs) := readSign cs
    let (digits, rest) ← readWhole? cs
    let n : Nat ← digits? 10 digits
    return (← integer? (if negative then -(n : Int) else n), rest)

/-- Reads a number. -/
def read? (cs : List Char) : Option (Node × List Char) :=
  let (negative, rest) := readSign cs
  (readFloat? cs).orElse fun _ => (readSpecial? negative rest).orElse fun _ => readInteger? cs

end Groundwork.Toml.Number
