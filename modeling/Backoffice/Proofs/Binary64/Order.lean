import Backoffice.Binary64.Basic
import Mathlib.Algebra.Order.Field.Power
import Mathlib.Algebra.Order.Field.Rat
import Mathlib.Order.Compare
import Mathlib.Tactic.Ring

/-!
The numbers that doubles stand for, and their order.

The low 63 bits of a word count through the absolute values without a gap or a step back, so
comparing two order keys is comparing two numbers.
-/

namespace Backoffice.Binary64

def value (x : Binary64) : ℚ :=
  (if x.negative then -1 else 1) * x.significand * 2 ^ x.exponent

/-- How many times the least positive double goes into an absolute value. -/
def units (magnitude : Nat) : Nat :=
  if magnitude < leadingBit then magnitude
  else (leadingBit + magnitude % leadingBit) * 2 ^ (magnitude / leadingBit - 1)

theorem units_zero : units 0 = 0 := rfl

theorem units_lt_units_succ (magnitude : Nat) : units magnitude < units (magnitude + 1) := by
  unfold units leadingBit
  by_cases small : magnitude < 0x10000000000000
  · rw [if_pos small]
    by_cases last : magnitude + 1 < 0x10000000000000
    · rw [if_pos last]
      omega
    · have same : magnitude = 0xFFFFFFFFFFFFF := by omega
      subst same
      decide
  · rw [if_neg small, if_neg (by omega)]
    by_cases carries : magnitude % 0x10000000000000 = 0xFFFFFFFFFFFFF
    · have rest : (magnitude + 1) % 0x10000000000000 = 0 := by omega
      have next : (magnitude + 1) / 0x10000000000000 - 1 =
          magnitude / 0x10000000000000 - 1 + 1 := by omega
      rw [carries, rest, next, Nat.pow_succ]
      have positive : 0 < 2 ^ (magnitude / 0x10000000000000 - 1) := Nat.two_pow_pos _
      omega
    · have rest : (magnitude + 1) % 0x10000000000000 = magnitude % 0x10000000000000 + 1 := by omega
      have same : (magnitude + 1) / 0x10000000000000 = magnitude / 0x10000000000000 := by omega
      rw [rest, same]
      exact Nat.mul_lt_mul_of_pos_right (by omega) (Nat.two_pow_pos _)

theorem units_strictMono : StrictMono units :=
  strictMono_nat_of_lt_succ units_lt_units_succ

theorem units_of_significand {significand : Nat} (lower : leadingBit ≤ significand)
    (upper : significand ≤ 2 * leadingBit) (exponent : Nat) :
    units (exponent * leadingBit + significand) = significand * 2 ^ exponent := by
  unfold units leadingBit at *
  rw [if_neg (by omega)]
  by_cases top : significand = 2 * 0x10000000000000
  · have rest : (exponent * 0x10000000000000 + significand) % 0x10000000000000 = 0 := by omega
    have quotient : (exponent * 0x10000000000000 + significand) / 0x10000000000000 - 1 =
        exponent + 1 := by omega
    rw [rest, quotient, top, Nat.pow_succ]
    ring
  · have rest : (exponent * 0x10000000000000 + significand) % 0x10000000000000 =
        significand - 0x10000000000000 := by omega
    have quotient : (exponent * 0x10000000000000 + significand) / 0x10000000000000 - 1 =
        exponent := by omega
    rw [rest, quotient, Nat.add_sub_cancel' lower]

def signedUnits (key : Int) : Int :=
  if key < 0 then -units key.natAbs else units key.natAbs

theorem signedUnits_lt {first second : Int} (below : first < second) :
    signedUnits first < signedUnits second := by
  unfold signedUnits
  by_cases negative : second < 0
  · have smaller : units second.natAbs < units first.natAbs := units_strictMono (by omega)
    rw [if_pos negative, if_pos (below.trans negative)]
    omega
  · rw [if_neg negative]
    by_cases negativeToo : first < 0
    · have positive : units 0 < units first.natAbs := units_strictMono (by omega)
      rw [units_zero] at positive
      rw [if_pos negativeToo]
      omega
    · have smaller : units first.natAbs < units second.natAbs := units_strictMono (by omega)
      rw [if_neg negativeToo]
      omega

theorem signedUnits_orderKey (x : Binary64) :
    signedUnits x.orderKey = if x.negative then -(units x.magnitude : Int)
      else units x.magnitude := by
  unfold signedUnits orderKey
  cases x.negative with
  | false => simp
  | true =>
    by_cases zero : x.magnitude = 0
    · simp [zero, units_zero]
    · have below : -(x.magnitude : Int) < 0 := by omega
      simp only [if_true, if_pos below, Int.natAbs_neg, Int.natAbs_natCast]

theorem significand_mul_two_zpow_exponent (x : Binary64) :
    (x.significand : ℚ) * 2 ^ x.exponent = units x.magnitude * 2 ^ (-1074 : Int) := by
  unfold significand exponent units
  split
  · rfl
  · next large =>
    have least : 1 ≤ x.magnitude / leadingBit :=
      (Nat.one_le_div_iff (by decide)).2 (Nat.le_of_not_lt large)
    have shifted : ((x.magnitude / leadingBit : Nat) : Int) - 1075 =
        ((x.magnitude / leadingBit - 1 : Nat) : Int) + -1074 := by omega
    rw [shifted, zpow_add₀ two_ne_zero, zpow_natCast, Nat.cast_mul, Nat.cast_pow, Nat.cast_ofNat,
      mul_assoc]

/-- The number of a double, in units of the least positive one. -/
theorem value_eq (x : Binary64) : x.value = signedUnits x.orderKey * 2 ^ (-1074 : Int) := by
  rw [value, mul_assoc, significand_mul_two_zpow_exponent, signedUnits_orderKey]
  cases x.negative with
  | false => simp
  | true => simp

/-- The order keys stand in the order of the numbers. -/
theorem compare_orderKey (x y : Binary64) :
    compare x.orderKey y.orderKey = compare x.value y.value := by
  have increasing : StrictMono fun key : Int => (signedUnits key : ℚ) * 2 ^ (-1074 : Int) :=
    fun _ _ below =>
      mul_lt_mul_of_pos_right (Int.cast_lt.2 (signedUnits_lt below)) (zpow_pos two_pos _)
  rw [value_eq, value_eq, ← cmp_eq_compare, ← cmp_eq_compare]
  exact (increasing.cmp_map_eq _ _).symm

end Backoffice.Binary64
