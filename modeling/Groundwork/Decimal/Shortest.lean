/-!
# The shortest decimal of a float

Every finite `Float` is `mantissa · 2 ^ power`, and the reals that round to it form an interval.
`Decimal.shortest` gives the decimal with the fewest digits in that interval, and of two with
equally many digits the nearer one.  All arithmetic is exact, on natural numbers.
-/

namespace Groundwork

/-- The number `digits · 10 ^ exponent`. -/
structure Decimal where
  digits : Nat
  exponent : Int
  deriving Repr, DecidableEq

/-- The size of a finite float, `mantissa · 2 ^ power`.  `narrow` says that the next smaller float
is only half as far away as the next larger one. -/
structure Binary where
  mantissa : Nat
  power : Int
  narrow : Bool

/-- The size of a finite float; the sign is left out. -/
def Binary.ofFloat (x : Float) : Binary :=
  let bits := x.toBits.toNat
  let fraction : Nat := bits % Nat.pow 2 52
  let field : Nat := bits / Nat.pow 2 52 % Nat.pow 2 11
  if field = 0 then ⟨fraction, -1074, false⟩
  else ⟨Nat.pow 2 52 + fraction, (field : Int) - 1075, decide (fraction = 0 ∧ 1 < field)⟩

namespace Decimal

/-- The number of digits of `n`, at least one. -/
def digitCount (n : Nat) : Nat :=
  (Nat.toDigits 10 n).length

/-- The power of ten at or below the positive fraction `num / den`. -/
def magnitude (num den : Nat) : Int :=
  if den ≤ num then (digitCount (num / den) : Int) - 1
  else -(digitCount ((den + num - 1) / num - 1) : Int)

/-- The same number without zeros at the end of its digits. -/
def normalize : Nat → Decimal → Decimal
  | 0, d => d
  | fuel + 1, d =>
    if d.digits ≠ 0 ∧ d.digits % 10 = 0 then normalize fuel ⟨d.digits / 10, d.exponent + 1⟩ else d

/-- `2 ^ n` for `n ≥ 0`, else one; numerators and denominators are scaled by it. -/
def twoTo (n : Int) : Nat := Nat.pow 2 n.toNat

/-- `10 ^ n` for `n ≥ 0`, else one. -/
def tenTo (n : Int) : Nat := Nat.pow 10 n.toNat

/-- The multiple of `10 ^ p` that rounds to `b`, if there is one: the nearer of the two around
`b`.  Both sides of each comparison are in quarters of the last place of `b`. -/
def onGrid? (b : Binary) (p : Int) : Option Nat :=
  let grid := tenTo p * twoTo (2 - b.power)
  let unit := twoTo (b.power - 2) * tenTo (-p)
  let value := 4 * b.mantissa * unit
  let low := (4 * b.mantissa - (if b.narrow then 1 else 2)) * unit
  let high := (4 * b.mantissa + 2) * unit
  let inside (n : Nat) : Bool :=
    if b.mantissa % 2 = 0 then low ≤ n && n ≤ high else low < n && n < high
  let below := value / grid
  let lower := below ≠ 0 && inside (below * grid)
  let upper := inside ((below + 1) * grid)
  if lower && upper then
    if value - below * grid ≤ (below + 1) * grid - value then some below else some (below + 1)
  else if lower then some below
  else if upper then some (below + 1)
  else none

/-- The decimal with the fewest digits that rounds to a positive `b`.  Seventeen digits always
suffice. -/
def shortestOf (b : Binary) : Decimal :=
  let top := magnitude (b.mantissa * twoTo b.power) (twoTo (-b.power))
  let candidates := (List.range 17).filterMap fun (k : Nat) =>
    let p := top - k
    (onGrid? b p).map fun n => normalize 18 ⟨n, p⟩
  candidates.head?.getD ⟨b.mantissa, b.power⟩

/-- The decimal with the fewest digits that rounds to the size of a finite float. -/
def shortest (x : Float) : Decimal :=
  let b := Binary.ofFloat x
  if b.mantissa = 0 then ⟨0, 0⟩ else shortestOf b

end Decimal

end Groundwork
