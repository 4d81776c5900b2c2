/-!
Finite double-precision numbers, held exactly: a sign and the low 63 bits of the word.

The low bits of a word grow with the absolute value it stands for, so comparing two numbers is
comparing two integers (`orderKey`), and rounding a ratio is integer division (`ofRatio?`).
-/

namespace Backoffice

/-- A finite double. `magnitude` is the word without its sign bit. -/
structure Binary64 where
  negative : Bool
  magnitude : Nat
  finite : magnitude < 0x7FF0000000000000 := by decide
  deriving DecidableEq, Repr

namespace Binary64

instance : Inhabited Binary64 := ⟨{ negative := false, magnitude := 0 }⟩

def zero (negative : Bool) : Binary64 := { negative, magnitude := 0 }

def word (x : Binary64) : Nat :=
  (if x.negative then 0x8000000000000000 else 0) + x.magnitude

/-- The leading bit of a significand, which words leave out where the exponent implies it. -/
def leadingBit : Nat := 0x10000000000000

/-- The significand `m` of the absolute value `m * 2 ^ exponent`. -/
def significand (x : Binary64) : Nat :=
  if x.magnitude < leadingBit then x.magnitude else leadingBit + x.magnitude % leadingBit

def exponent (x : Binary64) : Int :=
  if x.magnitude < leadingBit then -1074 else (x.magnitude / leadingBit : Nat) - 1075

/-- The absolute value as a numerator and a positive denominator. -/
def ratio (x : Binary64) : Nat × Nat :=
  if 0 ≤ x.exponent then (x.significand * Nat.pow 2 x.exponent.toNat, 1)
  else (x.significand, Nat.pow 2 (-x.exponent).toNat)

/-- The place of a number in the numeric order: both zeros share one key. -/
def orderKey (x : Binary64) : Int :=
  if x.negative then -x.magnitude else x.magnitude

theorem orderKey_zero (negative : Bool) : (zero negative).orderKey = 0 := by
  cases negative <;> rfl

/-- The integer nearest to a ratio, a half going to the even neighbour. -/
def roundHalfEven (numerator denominator : Nat) : Nat :=
  let quotient := numerator / denominator
  let remainder := numerator % denominator
  if 2 * remainder < denominator then quotient
  else if denominator < 2 * remainder then quotient + 1
  else quotient + quotient % 2

def powerAtMost (numerator denominator : Nat) (k : Int) : Bool :=
  if 0 ≤ k then denominator * Nat.pow 2 k.toNat ≤ numerator
  else denominator ≤ numerator * Nat.pow 2 (-k).toNat

/-- The largest `k` with `2 ^ k` at most the ratio, for positive arguments. -/
def floorLog2 (numerator denominator : Nat) : Int :=
  let guess : Int := (numerator.log2 : Int) - denominator.log2
  if powerAtMost numerator denominator guess then guess else guess - 1

/-- The double nearest to a ratio, a half going to the even significand; `none` beyond the
largest finite double. -/
def ofRatio? (negative : Bool) (numerator denominator : Nat) : Option Binary64 :=
  if numerator = 0 then some (zero negative)
  else
    let exponent := max (floorLog2 numerator denominator - 52) (-1074)
    let significand :=
      if 0 ≤ exponent then roundHalfEven numerator (denominator * Nat.pow 2 exponent.toNat)
      else roundHalfEven (numerator * Nat.pow 2 (-exponent).toNat) denominator
    let magnitude := (exponent + 1074).toNat * leadingBit + significand
    if finite : magnitude < 0x7FF0000000000000 then some { negative, magnitude, finite }
    else none

/-- The double nearest to `digits * 10 ^ exponent`. Exponents that alone decide between zero and
overflow are decided before any power is formed. -/
def ofDecimal? (negative : Bool) (digits : Nat) (exponent : Int) : Option Binary64 :=
  if digits = 0 then some (zero negative)
  else if 400 < exponent then none
  else if exponent < -(400 + digits.log2 : Int) then some (zero negative)
  else if 0 ≤ exponent then ofRatio? negative (digits * Nat.pow 10 exponent.toNat) 1
  else ofRatio? negative digits (Nat.pow 10 (-exponent).toNat)

def ofInt? (value : Int) : Option Binary64 :=
  ofRatio? (value < 0) value.natAbs 1

def mul? (x y : Binary64) : Option Binary64 :=
  ofRatio? (x.negative != y.negative) (x.ratio.1 * y.ratio.1) (x.ratio.2 * y.ratio.2)

/-- The quotient of two doubles, rounded once; the divisor is not zero. -/
def div? (x y : Binary64) : Option Binary64 :=
  ofRatio? (x.negative != y.negative) (x.ratio.1 * y.ratio.2) (x.ratio.2 * y.ratio.1)

/-- One is the word `3ff0000000000000`. -/
example : (ofInt? 1).map word = some 0x3FF0000000000000 := by decide

/-- Rounding to nearest drops the last unit of `2 ^ 53 + 1`. -/
example : ofInt? 9007199254740993 = ofInt? 9007199254740992 := by decide

end Binary64

end Backoffice
