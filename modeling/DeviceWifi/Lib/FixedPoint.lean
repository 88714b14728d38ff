/-
Module: DeviceWifi.Lib.FixedPoint
Layer: Lib
Purpose: Exact rational quantities published as whole numbers of a unit. `truncate` rounds toward zero, as
  a conversion of a floating-point value to an integer type does. Measuring in a unit `k` times larger
  divides the truncated number by `k`, so the two numbers agree only where both are zero.
Imports: Mathlib.Algebra.Order.Field.Rat, Mathlib.Data.Rat.Floor
Trusted boundary: none (fully proved)
Main exports: truncate, truncate_div_natCast, truncate_eq_zero_iff, truncate_div_natCast_eq_iff
Open obligations: none
-/
import Mathlib.Algebra.Order.Field.Rat
import Mathlib.Data.Rat.Floor

namespace FixedPoint

/-- The integer part of a rational: truncation toward zero. -/
def truncate (x : Rat) : Int := x.num.tdiv x.den

/-- The integer part of a fraction does not depend on how it is reduced. -/
theorem truncate_intCast_div_natCast (n : Int) (d : Nat) :
    truncate ((n : Rat) / d) = n.tdiv d := by
  obtain rfl | positive := Nat.eq_zero_or_pos d
  · simp [truncate]
  · have nonzero : (d : Int) ≠ 0 := Int.natCast_ne_zero.mpr (Nat.ne_of_gt positive)
    obtain ⟨c, num, den⟩ := Rat.exists_eq_mul_div_num_and_eq_mul_div_den n nonzero
    rw [Int.cast_natCast] at num den
    have factor : 0 < c := by
      apply pos_of_mul_pos_left _ (Int.natCast_nonneg ((n : Rat) / d).den)
      rw [← den]
      exact Int.natCast_pos.mpr positive
    rw [truncate]
    conv_rhs => rw [num, den]
    exact (Int.mul_tdiv_mul_of_pos _ _ factor).symm

/-- Truncated division by a product is truncated division by one factor after the other. -/
theorem tdiv_mul_natCast (a : Int) (b k : Nat) : a.tdiv (b * k) = (a.tdiv b).tdiv k := by
  have natural (n : Nat) : (n : Int).tdiv (b * k) = ((n : Int).tdiv b).tdiv k := by
    rw [← Int.natCast_mul, ← Int.ofNat_tdiv, ← Int.ofNat_tdiv, ← Int.ofNat_tdiv, Nat.div_div_eq_div_mul]
  obtain ⟨n, rfl | rfl⟩ := a.eq_nat_or_neg
  · exact natural n
  · rw [Int.neg_tdiv, Int.neg_tdiv, Int.neg_tdiv, natural]

/-- In a unit `k` times larger the truncated number is the truncated `k`-th part. -/
theorem truncate_div_natCast (x : Rat) (k : Nat) : truncate (x / k) = (truncate x).tdiv k := by
  have fraction : x / k = (x.num : Rat) / (x.den * k : Nat) := by
    rw [Nat.cast_mul, ← div_div, Rat.num_div_den]
  rw [fraction, truncate_intCast_div_natCast, Nat.cast_mul, tdiv_mul_natCast]
  rfl

/-- Exactly the quantities below one unit truncate to zero. -/
theorem truncate_eq_zero_iff (x : Rat) : truncate x = 0 ↔ |x| < 1 := by
  have positive : (0 : Rat) < x.den := Nat.cast_pos.mpr x.den_pos
  have small : |x| < 1 ↔ x.num.natAbs < x.den := by
    rw [← Rat.num_div_den x, abs_div, Nat.abs_cast, div_lt_one positive]
    simp only [Rat.num_div_den]
    rw [← Int.cast_abs, ← Int.natCast_natAbs]
    norm_cast
  rw [small, truncate, ← Int.natAbs_eq_zero, Int.natAbs_tdiv, Int.natAbs_natCast]
  exact Nat.div_eq_zero_iff_lt x.den_pos

/-- A proper multiple of a unit measures the same number only where both measure zero. -/
theorem truncate_div_natCast_eq_iff (x : Rat) {k : Nat} (multiple : 1 < k) :
    truncate (x / k) = truncate x ↔ |x| < 1 := by
  rw [truncate_div_natCast, ← truncate_eq_zero_iff]
  constructor
  · intro same
    have sizes := congrArg Int.natAbs same
    rw [Int.natAbs_tdiv, Int.natAbs_natCast] at sizes
    rcases Nat.div_eq_self.mp sizes with zero | one
    · exact Int.natAbs_eq_zero.mp zero
    · omega
  · intro zero
    rw [zero, Int.zero_tdiv]

end FixedPoint
