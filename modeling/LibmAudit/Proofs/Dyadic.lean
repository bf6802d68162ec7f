/-
**Values of dyadic numbers.**

* `Dyadic.magnitude`, `toReal`: the value of a significand with an exponent and a sign.
* `Dyadic.reduced_magnitude`, `reduced_odd`: a number without its trailing zeros is the same number.
* `Dyadic.significand_le_of_odd`: no way to write a number has a smaller significand than the odd
  one.
-/

import LibmAudit.Multiprecision.Pattern
import LibmAudit.Proofs.Rounding.Real

namespace LibmAudit.Dyadic

attribute [local instance (high)] instPowNat

/-- The magnitude as a real number. -/
noncomputable def magnitude (number : Dyadic) : ℝ := number.significand * 2 ^ number.exponent

/-- The value. -/
noncomputable def toReal (number : Dyadic) : ℝ := LibmAudit.signed number.negative number.magnitude

/-! ## Trailing zeros -/

theorem stripTwos_mul (fuel significand : ℕ) :
    (stripTwos fuel significand).1 * 2 ^ (stripTwos fuel significand).2 = significand := by
  induction fuel generalizing significand with
  | zero => simp [stripTwos]
  | succ fuel ih =>
    unfold stripTwos
    split
    · next even =>
      have half := ih (significand / 2)
      dsimp only
      rw [pow_succ, ← mul_assoc, half]
      omega
    · simp

theorem stripTwos_odd {fuel significand : ℕ} (positive : significand ≠ 0)
    (enough : significand < 2 ^ fuel) : (stripTwos fuel significand).1 % 2 = 1 := by
  induction fuel generalizing significand with
  | zero =>
    rw [pow_zero] at enough
    omega
  | succ fuel ih =>
    rw [pow_succ] at enough
    unfold stripTwos
    split
    · exact ih (by omega) (by omega)
    · next odd => exact Nat.mod_two_ne_zero.mp odd

theorem reduced_magnitude (number : Dyadic) : number.reduced.magnitude = number.magnitude := by
  have whole := stripTwos_mul (bitLength number.significand) number.significand
  unfold magnitude reduced
  dsimp only
  conv_rhs => rw [← whole]
  rw [zpow_add₀ two_ne_zero, zpow_natCast]
  push_cast
  ring

theorem reduced_odd {number : Dyadic} (positive : number.significand ≠ 0) :
    number.reduced.significand % 2 = 1 :=
  stripTwos_odd positive (lt_two_pow_bitLength _)

theorem magnitude_pos {number : Dyadic} (positive : number.significand ≠ 0) :
    0 < number.magnitude := by
  have : (0 : ℝ) < number.significand := by exact_mod_cast Nat.pos_of_ne_zero positive
  unfold magnitude
  positivity

theorem significand_ne_zero_iff {number : Dyadic} :
    number.significand ≠ 0 ↔ number.magnitude ≠ 0 := by
  refine ⟨fun positive => (magnitude_pos positive).ne', fun nonzero zero => nonzero ?_⟩
  rw [magnitude, zero, Nat.cast_zero, zero_mul]

/-- An odd significand is the smallest one of its number. -/
theorem significand_le_of_odd {number other : Dyadic} (odd : number.significand % 2 = 1)
    (same : number.magnitude = other.magnitude) : number.significand ≤ other.significand := by
  unfold magnitude at same
  rcases le_or_gt other.exponent number.exponent with up | down
  · have shift : number.exponent = (number.exponent - other.exponent).toNat + other.exponent := by
      omega
    rw [shift, zpow_add₀ two_ne_zero, ← mul_assoc, mul_left_inj' (by positivity),
      zpow_natCast] at same
    have whole : number.significand * 2 ^ (number.exponent - other.exponent).toNat =
        other.significand := by exact_mod_cast same
    rw [← whole]
    exact Nat.le_mul_of_pos_right _ (Nat.two_pow_pos _)
  · -- With a larger exponent the other significand would make this one even.
    have shift : other.exponent =
        ((other.exponent - number.exponent).toNat - 1 : ℕ) + (1 + number.exponent) := by
      omega
    rw [shift, zpow_add₀ two_ne_zero, zpow_add₀ two_ne_zero, ← mul_assoc, ← mul_assoc,
      mul_left_inj' (by positivity), zpow_natCast, zpow_one] at same
    have even : number.significand =
        other.significand * 2 ^ ((other.exponent - number.exponent).toNat - 1) * 2 := by
      exact_mod_cast same
    omega

/-! ## The leading digit -/

theorem standsFor_magnitude (number : Dyadic) :
    StandsFor number.significand number.exponent false number.magnitude := by
  rw [StandsFor, if_neg Bool.false_ne_true, magnitude]

theorem log_magnitude {number : Dyadic} (positive : number.significand ≠ 0) :
    Int.log 2 number.magnitude = number.top - 1 :=
  number.standsFor_magnitude.log_eq positive

end LibmAudit.Dyadic
