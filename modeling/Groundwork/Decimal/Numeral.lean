import Groundwork.Decimal.Shortest
import Groundwork.Text.Digit

/-!
# Decimals from numerals
-/

namespace Groundwork.Decimal

/-- Reads digits with at most one point among them, at least one digit in all, and then perhaps an
exponent; nothing may follow. -/
def ofNumeral? (cs : List Char) : Option Decimal := do
  let whole := cs.takeWhile Char.isDigit
  let rest := cs.dropWhile Char.isDigit
  let (fraction, rest) := match rest with
    | '.' :: rest => (rest.takeWhile Char.isDigit, rest.dropWhile Char.isDigit)
    | _ => ([], rest)
  if whole.isEmpty && fraction.isEmpty then none
  let n ← digits? 10 (whole ++ fraction)
  let marked ← match rest with
    | [] => some none
    | 'e' :: rest => some (some rest)
    | 'E' :: rest => some (some rest)
    | _ => none
  match marked with
  | none => some ⟨n, -(fraction.length : Int)⟩
  | some rest =>
    let (down, rest) := match rest with
      | '-' :: rest => (true, rest)
      | '+' :: rest => (false, rest)
      | _ => (false, rest)
    let e ← digits? 10 rest
    some ⟨n, (if down then -(e : Int) else e) - fraction.length⟩

end Groundwork.Decimal
