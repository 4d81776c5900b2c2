import Backoffice.Binary64.Basic

/-!
The fewest decimal digits that read back as a given double.

A decimal reads back as `x` when it lies between the midpoints to the neighbours of `x`, the
midpoints included when the significand of `x` is even. For one, two, … digits only the two grid
points around `x` can be the nearest such decimal, so only these are tried.
-/

namespace Backoffice.Binary64

structure Decimal where
  digits : Nat
  exponent : Int
  deriving DecidableEq, Repr

/-- The decimals that read back as one double, on the scale where the double itself is
`4 * significand`: `low` to `high` units of `unit.1 / unit.2`. -/
structure Neighbourhood where
  low : Nat
  value : Nat
  high : Nat
  closed : Bool
  unit : Nat × Nat

/-- The neighbourhood of a positive double. The gap below a power of two is half the gap above. -/
def neighbourhood (x : Binary64) : Neighbourhood :=
  let value := 4 * x.significand
  let narrow := decide (x.significand = leadingBit) && decide (x.exponent > -1074)
  let scale := x.exponent - 2
  { low := if narrow then value - 1 else value - 2
    value
    high := value + 2
    closed := x.significand % 2 = 0
    unit := if 0 ≤ scale then (Nat.pow 2 scale.toNat, 1) else (1, Nat.pow 2 (-scale).toNat) }

def powerOfTen (k : Int) : Nat × Nat :=
  if 0 ≤ k then (Nat.pow 10 k.toNat, 1) else (1, Nat.pow 10 (-k).toNat)

/-- The largest `k` with `10 ^ k` at most the ratio. A binary logarithm times `log10 2` misses it
by at most one on either side. -/
def floorLog10 (numerator denominator : Nat) : Int :=
  let guess := Int.fdiv (floorLog2 numerator denominator * 1233) 4096
  let atMost (k : Int) : Bool :=
    let (up, down) := powerOfTen k
    up * denominator ≤ numerator * down
  ([guess + 1, guess].find? atMost).getD (guess - 1)

/-- Of the two grid points around the double, the nearer one that reads back. -/
def onGrid? (range : Neighbourhood) (exponent : Int) : Option Decimal :=
  let (tenUp, tenDown) := powerOfTen exponent
  let (unitUp, unitDown) := range.unit
  let scaled (count : Nat) := count * unitUp * tenDown
  let point (digits : Nat) := digits * tenUp * unitDown
  let below := scaled range.value / (tenUp * unitDown)
  let readsBack (digits : Nat) : Bool :=
    if range.closed then scaled range.low ≤ point digits && point digits ≤ scaled range.high
    else scaled range.low < point digits && point digits < scaled range.high
  let downwards := scaled range.value - point below
  let upwards := point (below + 1) - scaled range.value
  match readsBack below, readsBack (below + 1) with
  | false, false => none
  | true, false => some ⟨below, exponent⟩
  | false, true => some ⟨below + 1, exponent⟩
  | true, true =>
    if downwards < upwards then some ⟨below, exponent⟩
    else if upwards < downwards then some ⟨below + 1, exponent⟩
    else some ⟨below + below % 2, exponent⟩

def Decimal.dropZero (decimal : Decimal) : Decimal :=
  if decimal.digits % 10 = 0 then ⟨decimal.digits / 10, decimal.exponent + 1⟩ else decimal

/-- The shortest decimal that reads back as the absolute value of a double that is not zero.
Seventeen digits always suffice. Only a double just below a power of ten, which is ten units of the
first grid, leaves a zero at the end. -/
def shortest (x : Binary64) : Decimal :=
  let range := x.neighbourhood
  let top := floorLog10 x.ratio.1 x.ratio.2
  let grids := (List.range 17).map fun (extra : Nat) => top - extra
  ((grids.findSome? (onGrid? range)).getD ⟨x.ratio.1 / x.ratio.2, 0⟩).dropZero

end Backoffice.Binary64
