import Groundwork.Decimal.Shortest

/-!
# Writing floats

A float is written with the digits of its shortest decimal.  A `FloatStyle` decides the rest: where
positional notation ends, how whole numbers look, and what stands for the values that are no
numbers.
-/

namespace Groundwork

/-- The decisions that a format makes about floats. -/
structure FloatStyle where
  /-- Positional notation is used while the point stands after more than this many digits, counted
  from the first digit. -/
  positionalAbove : Option Int
  /-- Positional notation is used while the point stands after at most this many digits. -/
  positionalUpTo : Option Int
  /-- What follows a whole number in positional notation. -/
  wholeSuffix : String
  /-- What stands before an exponent that is not negative. -/
  exponentSign : List Char
  positiveInfinity : String
  negativeInfinity : String
  notANumber : String

namespace FloatStyle

/-- JSON writes `0.00001` and `1000000000000000.0` out, but `1e-6` and `1e+16`; it has no text for
infinities and for what is not a number. -/
def json : FloatStyle where
  positionalAbove := some (-5)
  positionalUpTo := some 16
  wholeSuffix := ".0"
  exponentSign := ['+']
  positiveInfinity := "null"
  negativeInfinity := "null"
  notANumber := "null"

/-- Manifests write numbers as JSON does, but `1e16` without a sign. -/
def yaml : FloatStyle where
  positionalAbove := json.positionalAbove
  positionalUpTo := json.positionalUpTo
  wholeSuffix := json.wholeSuffix
  exponentSign := []
  positiveInfinity := ".inf"
  negativeInfinity := "-.inf"
  notANumber := ".nan"

/-- Generated code writes every number out, and whole numbers without a point. -/
def code : FloatStyle where
  positionalAbove := none
  positionalUpTo := none
  wholeSuffix := ""
  exponentSign := []
  positiveInfinity := "inf"
  negativeInfinity := "-inf"
  notANumber := "NaN"

/-- Whether a number whose point stands after `point` digits is written in positional notation. -/
def isPositional (style : FloatStyle) (point : Int) : Bool :=
  style.positionalAbove.all (· < point) && style.positionalUpTo.all (point ≤ ·)

end FloatStyle

namespace Decimal

/-- `count` zeros. -/
def zeros (count : Int) : List Char :=
  List.replicate count.toNat '0'

/-- The text of a decimal in a style. -/
def write (style : FloatStyle) (d : Decimal) : List Char :=
  let ds := Nat.toDigits 10 d.digits
  let point := (ds.length : Int) + d.exponent
  if d.digits = 0 then '0' :: style.wholeSuffix.toList
  else if style.isPositional point then
    if 0 ≤ d.exponent then ds ++ zeros d.exponent ++ style.wholeSuffix.toList
    else if 0 < point then ds.take point.toNat ++ '.' :: ds.drop point.toNat
    else '0' :: '.' :: zeros (-point) ++ ds
  else
    let sign := if point < 1 then [] else style.exponentSign
    let exponent := 'e' :: sign ++ (toString (point - 1)).toList
    match ds with
    | [] => exponent
    | [d₀] => d₀ :: exponent
    | d₀ :: rest => d₀ :: '.' :: rest ++ exponent

end Decimal

/-- The text of a float in a style. -/
def FloatStyle.write (style : FloatStyle) (x : Float) : String :=
  if x.isNaN then style.notANumber
  else
    let negative := Nat.pow 2 63 ≤ x.toBits.toNat
    if x.isInf then if negative then style.negativeInfinity else style.positiveInfinity
    else
      let size := (Decimal.shortest x).write style
      String.ofList (if negative then '-' :: size else size)

end Groundwork
