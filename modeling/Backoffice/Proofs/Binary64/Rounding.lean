import Backoffice.Proofs.Binary64.Order
import Mathlib.Data.Nat.Log
import Mathlib.Tactic.Positivity

/-!
The doubles nearest to the integers of 64 bits.

Every integer of 64 bits, with or without a sign, has a nearest double, whose number is the
nearest multiple of the spacing of doubles around the integer. Rounding keeps the order, and up to
`2 ^ 53` it changes nothing.
-/

namespace Backoffice.Binary64

/-! ### Rounding a ratio -/

theorem div_le_roundHalfEven (numerator denominator : Nat) :
    numerator / denominator ≤ roundHalfEven numerator denominator := by
  simp only [roundHalfEven]
  split
  · exact le_rfl
  · split
    · exact Nat.le_succ _
    · exact Nat.le_add_right _ _

theorem roundHalfEven_le_div_succ (numerator denominator : Nat) :
    roundHalfEven numerator denominator ≤ numerator / denominator + 1 := by
  simp only [roundHalfEven]
  split
  · exact Nat.le_succ _
  · split
    · exact le_rfl
    · omega

theorem roundHalfEven_mul (quotient : Nat) {denominator : Nat} (positive : 0 < denominator) :
    roundHalfEven (quotient * denominator) denominator = quotient := by
  simp only [roundHalfEven, Nat.mul_mod_left, Nat.mul_div_cancel _ positive, Nat.mul_zero,
    if_pos positive]

theorem roundHalfEven_one (numerator : Nat) : roundHalfEven numerator 1 = numerator := by
  simpa using roundHalfEven_mul numerator Nat.one_pos

theorem roundHalfEven_mono (denominator : Nat) :
    Monotone fun numerator => roundHalfEven numerator denominator := by
  intro first second ordered
  rcases Nat.lt_or_eq_of_le (Nat.div_le_div_right (c := denominator) ordered) with below | same
  · calc roundHalfEven first denominator ≤ first / denominator + 1 := roundHalfEven_le_div_succ _ _
      _ ≤ second / denominator := below
      _ ≤ roundHalfEven second denominator := div_le_roundHalfEven _ _
  · have firstParts := Nat.div_add_mod first denominator
    have secondParts := Nat.div_add_mod second denominator
    have remainders : first % denominator ≤ second % denominator := by
      rw [same] at firstParts
      omega
    simp only [roundHalfEven, same]
    split_ifs <;> omega

/-! ### Nearest integers -/

/-- The distance between the doubles around a natural number, if they are integers. -/
def spacing (number : Nat) : Nat := 2 ^ (number.log2 - 52)

/-- The multiple of the spacing that is nearest to a natural number, a half
going to the even multiple. -/
def nearestNat (number : Nat) : Nat :=
  roundHalfEven number (spacing number) * spacing number

def nearestInt (number : Int) : Int :=
  if number < 0 then -nearestNat number.natAbs else nearestNat number.natAbs

theorem spacing_pos (number : Nat) : 0 < spacing number := Nat.two_pow_pos _

theorem nearestNat_eq_self {number : Nat} (multiple : spacing number ∣ number) :
    nearestNat number = number := by
  obtain ⟨quotient, same⟩ := multiple
  have rounded : roundHalfEven number (spacing number) = quotient := by
    calc roundHalfEven number (spacing number)
        = roundHalfEven (quotient * spacing number) (spacing number) := by rw [Nat.mul_comm, ← same]
      _ = quotient := roundHalfEven_mul quotient (spacing_pos number)
  rw [nearestNat, rounded, Nat.mul_comm, ← same]

theorem nearestNat_of_log2_le {number : Nat} (small : number.log2 ≤ 52) :
    nearestNat number = number := by
  refine nearestNat_eq_self ?_
  rw [spacing, Nat.sub_eq_zero_of_le small, Nat.pow_zero]
  exact Nat.one_dvd _

theorem nearestNat_of_le {number : Nat} (small : number ≤ 0x20000000000000) :
    nearestNat number = number := by
  rcases Nat.lt_or_eq_of_le small with below | same
  · by_cases zero : number = 0
    · subst zero
      decide
    · have magnitude : number.log2 < 53 := (Nat.log2_lt zero).2 below
      exact nearestNat_of_log2_le (by omega)
  · subst same
    exact nearestNat_eq_self (by decide)

/-- The significand nearest to a number whose doubles are integers has 53 bits, or is
the next power of two. -/
theorem roundHalfEven_spacing_bounds {number : Nat} (large : 52 ≤ number.log2) :
    leadingBit ≤ roundHalfEven number (spacing number) ∧
      roundHalfEven number (spacing number) ≤ 2 * leadingBit := by
  have notZero : number ≠ 0 := by
    rintro rfl
    simp at large
  have scale : number.log2 = 52 + (number.log2 - 52) := by omega
  have lower : leadingBit * spacing number ≤ number := by
    have least := Nat.log2_self_le notZero
    rwa [scale, Nat.pow_add] at least
  have upper : number ≤ 2 * leadingBit * spacing number := by
    have greatest := Nat.lt_log2_self (n := number)
    rw [scale, Nat.add_right_comm, Nat.pow_add] at greatest
    exact greatest.le
  constructor
  · calc leadingBit = roundHalfEven (leadingBit * spacing number) (spacing number) :=
          (roundHalfEven_mul _ (spacing_pos number)).symm
      _ ≤ roundHalfEven number (spacing number) := roundHalfEven_mono _ lower
  · calc roundHalfEven number (spacing number)
        ≤ roundHalfEven (2 * leadingBit * spacing number) (spacing number) :=
          roundHalfEven_mono _ upper
      _ = 2 * leadingBit := roundHalfEven_mul _ (spacing_pos number)

/-- Rounding stays between the powers of two around a number. -/
theorem nearestNat_bounds {number : Nat} (positive : number ≠ 0) :
    2 ^ number.log2 ≤ nearestNat number ∧ nearestNat number ≤ 2 ^ (number.log2 + 1) := by
  by_cases large : 52 ≤ number.log2
  · obtain ⟨lower, upper⟩ := roundHalfEven_spacing_bounds large
    have scale : number.log2 = 52 + (number.log2 - 52) := by omega
    have least : 2 ^ number.log2 = leadingBit * spacing number := by
      conv_lhs => rw [scale, Nat.pow_add]
      rfl
    rw [Nat.pow_succ, least, nearestNat]
    refine ⟨Nat.mul_le_mul_right _ lower, ?_⟩
    calc roundHalfEven number (spacing number) * spacing number
        ≤ 2 * leadingBit * spacing number := Nat.mul_le_mul_right _ upper
      _ = leadingBit * spacing number * 2 := by ring
  · rw [nearestNat_of_log2_le (by omega)]
    exact ⟨Nat.log2_self_le positive, Nat.lt_log2_self.le⟩

theorem nearestNat_mono : Monotone nearestNat := by
  intro first second ordered
  by_cases zero : first = 0
  · subst zero
    exact Nat.zero_le _
  have notZero : second ≠ 0 := by omega
  rcases Nat.lt_or_eq_of_le ((Nat.le_log2 notZero).2 ((Nat.log2_self_le zero).trans ordered))
    with below | same
  · calc nearestNat first ≤ 2 ^ (first.log2 + 1) := (nearestNat_bounds zero).2
      _ ≤ 2 ^ second.log2 := Nat.pow_le_pow_right Nat.two_pos below
      _ ≤ nearestNat second := (nearestNat_bounds notZero).1
  · have sameSpacing : spacing first = spacing second := by rw [spacing, spacing, same]
    rw [nearestNat, nearestNat, sameSpacing]
    exact Nat.mul_le_mul_right _ (roundHalfEven_mono _ ordered)

theorem nearestInt_mono {first second : Int} (ordered : first ≤ second) :
    nearestInt first ≤ nearestInt second := by
  unfold nearestInt
  split_ifs with negative negativeToo negativeToo
  · have magnitudes : nearestNat second.natAbs ≤ nearestNat first.natAbs :=
      nearestNat_mono (by omega)
    omega
  · omega
  · omega
  · have magnitudes : nearestNat first.natAbs ≤ nearestNat second.natAbs :=
      nearestNat_mono (by omega)
    omega

theorem nearestInt_of_natAbs_le {number : Int} (small : number.natAbs ≤ 0x20000000000000) :
    nearestInt number = number := by
  unfold nearestInt
  rw [nearestNat_of_le small]
  omega

/-! ### Nearest doubles -/

theorem floorLog2_one {number : Nat} (positive : number ≠ 0) :
    floorLog2 number 1 = number.log2 := by
  have atMost : powerAtMost number 1 number.log2 = true := by
    rw [powerAtMost, if_pos (Int.natCast_nonneg _), Int.toNat_natCast, Nat.one_mul]
    exact decide_eq_true (Nat.log2_self_le positive)
  have guess : ((number.log2 : Int) - Nat.log2 1) = number.log2 := Int.sub_zero _
  rw [floorLog2, guess, atMost, if_pos rfl]

theorem mul_two_pow_bounds {number : Nat} (positive : number ≠ 0) (small : number.log2 ≤ 52) :
    leadingBit ≤ number * 2 ^ (52 - number.log2) ∧
      number * 2 ^ (52 - number.log2) ≤ 2 * leadingBit := by
  constructor
  · calc leadingBit = 2 ^ number.log2 * 2 ^ (52 - number.log2) := by
          rw [← Nat.pow_add, Nat.add_sub_cancel' small]
          rfl
      _ ≤ number * 2 ^ (52 - number.log2) := Nat.mul_le_mul_right _ (Nat.log2_self_le positive)
  · calc number * 2 ^ (52 - number.log2)
        ≤ 2 ^ (number.log2 + 1) * 2 ^ (52 - number.log2) :=
          Nat.mul_le_mul_right _ Nat.lt_log2_self.le
      _ = 2 ^ (52 + 1) := by
          rw [← Nat.pow_add]
          congr 1
          omega
      _ = 2 * leadingBit := rfl

theorem value_of_significand (negative : Bool) {significand exponent : Nat}
    (lower : leadingBit ≤ significand) (upper : significand ≤ 2 * leadingBit)
    (finite : exponent * leadingBit + significand < 0x7FF0000000000000) :
    value { negative, magnitude := exponent * leadingBit + significand, finite } =
      (if negative then -1 else 1) * (significand * 2 ^ ((exponent : Int) - 1074)) := by
  rw [value, mul_assoc, significand_mul_two_zpow_exponent, units_of_significand lower upper,
    sub_eq_add_neg, zpow_add₀ two_ne_zero, zpow_natCast, Nat.cast_mul, Nat.cast_pow, Nat.cast_ofNat,
    mul_assoc]

theorem ofRatio?_one (negative : Bool) {number : Nat} (positive : number ≠ 0)
    (reach : number < 0x10000000000000000) :
    ∃ x, ofRatio? negative number 1 = some x ∧
      x.value = (if negative then -1 else 1) * nearestNat number := by
  have bits : number.log2 < 64 := (Nat.log2_lt positive).2 reach
  have scale : max (floorLog2 number 1 - 52) (-1074) = (number.log2 : Int) - 52 := by
    rw [floorLog2_one positive]
    omega
  have place : ((number.log2 : Int) - 52 + 1074).toNat = number.log2 + 1022 := by omega
  simp only [ofRatio?, if_neg positive, scale, place]
  by_cases large : 52 ≤ number.log2
  · obtain ⟨lower, upper⟩ := roundHalfEven_spacing_bounds large
    have step : 1 * Nat.pow 2 ((number.log2 : Int) - 52).toNat = spacing number := by
      have same : ((number.log2 : Int) - 52).toNat = number.log2 - 52 := by omega
      rw [Nat.one_mul, same]
      rfl
    have finite : (number.log2 + 1022) * leadingBit + roundHalfEven number (spacing number) <
        0x7FF0000000000000 := by
      unfold leadingBit at upper ⊢
      omega
    have power : ((number.log2 + 1022 : Nat) : Int) - 1074 = ((number.log2 - 52 : Nat) : Int) := by
      omega
    simp only [if_pos (show (0 : Int) ≤ (number.log2 : Int) - 52 by omega), step, dif_pos finite]
    refine ⟨_, rfl, ?_⟩
    rw [value_of_significand negative lower upper finite, power, zpow_natCast, nearestNat, spacing,
      Nat.cast_mul, Nat.cast_pow, Nat.cast_ofNat]
  · have step : roundHalfEven (number * Nat.pow 2 (-((number.log2 : Int) - 52)).toNat) 1 =
        number * 2 ^ (52 - number.log2) := by
      have same : (-((number.log2 : Int) - 52)).toNat = 52 - number.log2 := by omega
      rw [roundHalfEven_one, same]
      rfl
    obtain ⟨lower, upper⟩ := mul_two_pow_bounds positive (Nat.le_of_not_le large)
    have finite : (number.log2 + 1022) * leadingBit + number * 2 ^ (52 - number.log2) <
        0x7FF0000000000000 := by
      unfold leadingBit at upper ⊢
      omega
    have power : ((number.log2 + 1022 : Nat) : Int) - 1074 = -((52 - number.log2 : Nat) : Int) := by
      omega
    simp only [if_neg (show ¬ (0 : Int) ≤ (number.log2 : Int) - 52 by omega), step, dif_pos finite]
    refine ⟨_, rfl, ?_⟩
    rw [value_of_significand negative lower upper finite, power, nearestNat_of_log2_le (by omega),
      Nat.cast_mul, Nat.cast_pow, Nat.cast_ofNat, zpow_neg, zpow_natCast, mul_assoc,
      mul_inv_cancel₀ (by positivity), mul_one]

/-- An integer of 64 bits has a nearest double, of the number nearest to it. -/
theorem ofInt?_eq_some {number : Int} (reach : number.natAbs < 0x10000000000000000) :
    ∃ x, ofInt? number = some x ∧ x.value = nearestInt number := by
  by_cases zero : number = 0
  · subst zero
    refine ⟨Binary64.zero false, rfl, ?_⟩
    rw [value_eq, orderKey_zero]
    exact zero_mul _
  · obtain ⟨x, rounded, same⟩ := ofRatio?_one (number < 0) (Int.natAbs_ne_zero.2 zero) reach
    refine ⟨x, rounded, same.trans ?_⟩
    unfold nearestInt
    by_cases negative : number < 0
    · simp [negative]
    · simp [negative]

end Backoffice.Binary64
