/-
**Divisions of magnitudes.**

Two magnitudes are divided as multiples of the smaller one of their last places. Counted in units of
the lowest place of the format, this is the division of the units.

* `Division.truncated_units`: the quotient cut toward zero.
* `Division.nearest_units`: the quotient to nearest even.
* `Division.outcome_eq`: the remainder as an outcome, a zero with the sign of the dividend.
-/

import LibmAudit.Proofs.Remainder.Grid
import LibmAudit.Proofs.Remainder.Operand
import LibmAudit.Proofs.Remainder.Quotient

namespace LibmAudit.Division

attribute [local instance (high)] instPowNat

variable (format : Format)

/-- Two magnitudes over their common place, which is a number of places above the lowest one. -/
theorem align_units (negative negative' : Bool) (dividend divisor : ℕ) :
    ∃ first second above : ℕ,
      (format.dyadicAt negative dividend).abs.align (format.dyadicAt negative' divisor).abs =
        ((first : ℤ), (second : ℤ), format.lowestPlace + above) ∧
      first * 2 ^ above = format.unitsAt dividend ∧
      second * 2 ^ above = format.unitsAt divisor := by
  have place : min (format.placeAt dividend) (format.placeAt divisor) = format.lowestPlace +
      (min (format.placeIndexAt dividend) (format.placeIndexAt divisor) : ℕ) := by
    unfold Format.placeAt
    omega
  have left : (format.placeAt dividend - (format.lowestPlace +
      (min (format.placeIndexAt dividend) (format.placeIndexAt divisor) : ℕ))).toNat =
        format.placeIndexAt dividend -
          min (format.placeIndexAt dividend) (format.placeIndexAt divisor) := by
    unfold Format.placeAt
    omega
  have right : (format.placeAt divisor - (format.lowestPlace +
      (min (format.placeIndexAt dividend) (format.placeIndexAt divisor) : ℕ))).toNat =
        format.placeIndexAt divisor -
          min (format.placeIndexAt dividend) (format.placeIndexAt divisor) := by
    unfold Format.placeAt
    omega
  refine ⟨format.significandAt dividend * 2 ^ (format.placeIndexAt dividend -
      min (format.placeIndexAt dividend) (format.placeIndexAt divisor)),
    format.significandAt divisor * 2 ^ (format.placeIndexAt divisor -
      min (format.placeIndexAt dividend) (format.placeIndexAt divisor)),
    min (format.placeIndexAt dividend) (format.placeIndexAt divisor), ?_, ?_, ?_⟩
  · unfold Dyadic.align Dyadic.signed Dyadic.abs Format.dyadicAt
    dsimp only
    rw [place, left, right, if_neg Bool.false_ne_true, if_neg Bool.false_ne_true, Nat.cast_mul,
      Nat.cast_mul]
  · rw [mul_assoc, ← pow_add, Nat.sub_add_cancel (min_le_left _ _), Format.unitsAt]
  · rw [mul_assoc, ← pow_add, Nat.sub_add_cancel (min_le_right _ _), Format.unitsAt]

/-- The remainder of a truncating division in units. -/
theorem truncated_units (negative negative' : Bool) (dividend divisor : ℕ) :
    ((truncated (format.dyadicAt negative dividend)
        (format.dyadicAt negative' divisor)).remainder : ℝ) *
      2 ^ (truncated (format.dyadicAt negative dividend)
        (format.dyadicAt negative' divisor)).place =
      (format.unitsAt dividend % format.unitsAt divisor : ℕ) * 2 ^ format.lowestPlace := by
  obtain ⟨first, second, above, aligned, units, units'⟩ :=
    align_units format negative negative' dividend divisor
  unfold truncated
  rw [aligned, ← units, ← units', Nat.mul_mod_mul_right]
  dsimp only
  rw [add_comm, zpow_add₀ two_ne_zero, zpow_natCast, Int.natAbs_natCast, Int.natAbs_natCast,
    Int.cast_natCast, Nat.cast_mul, Nat.cast_pow, Nat.cast_ofNat]
  ring

/-- A rounding division in units. -/
theorem nearest_units (negative negative' : Bool) (dividend : ℕ) {divisor : ℕ}
    (positive : 0 < divisor) :
    ∃ rest : ℤ,
      ((nearest (format.dyadicAt negative dividend)
          (format.dyadicAt negative' divisor)).remainder : ℝ) *
        2 ^ (nearest (format.dyadicAt negative dividend)
          (format.dyadicAt negative' divisor)).place = rest * 2 ^ format.lowestPlace ∧
      NearestDivision (format.unitsAt dividend) (format.unitsAt divisor)
        (nearest (format.dyadicAt negative dividend)
          (format.dyadicAt negative' divisor)).quotient rest := by
  obtain ⟨first, second, above, aligned, units, units'⟩ :=
    align_units format negative negative' dividend divisor
  have unit := Nat.two_pow_pos above
  have nonzero : 0 < second := by
    rw [← Nat.mul_pos_iff_of_pos_right unit, units']
    exact format.unitsAt_pos_iff.mpr positive
  have scale (multiple : ℤ) : (multiple : ℝ) * 2 ^ (format.lowestPlace + above) =
      (multiple * (2 ^ above : ℕ) : ℤ) * 2 ^ format.lowestPlace := by
    rw [add_comm, zpow_add₀ two_ne_zero, zpow_natCast]
    push_cast
    ring
  have division := NearestDivision.of_mod first nonzero
  unfold nearest
  rw [aligned, ← units, ← units']
  dsimp only
  rw [Int.natAbs_natCast, Int.natAbs_natCast]
  split at division
  · next up =>
    rw [if_pos up]
    exact ⟨_, scale _, division.mul_right unit⟩
  · next down =>
    rw [if_neg down]
    exact ⟨_, scale _, division.mul_right unit⟩

/-- A remainder as an outcome. A zero has the sign of the dividend. -/
theorem outcome_eq (negative : Bool) {division : Division} {rest : ℤ}
    (units : (division.remainder : ℝ) * 2 ^ division.place = rest * 2 ^ format.lowestPlace) :
    (rest = 0 ∧ division.outcome negative = .zero negative) ∨
      (rest ≠ 0 ∧ (division.outcome negative).HasValue
        (signed negative (rest * 2 ^ format.lowestPlace))) := by
  have unit : (2 : ℝ) ^ format.lowestPlace ≠ 0 := by positivity
  have power : (2 : ℝ) ^ division.place ≠ 0 := by positivity
  have zero : rest = 0 ↔ division.remainder = 0 := by
    rw [← Int.cast_eq_zero (α := ℝ), ← mul_left_inj' unit, ← units, zero_mul,
      mul_eq_zero, or_iff_left power, Int.cast_eq_zero]
  unfold outcome
  by_cases none : rest = 0
  · refine Or.inl ⟨none, ?_⟩
    rw [zero.mp none, neg_zero, ite_self, Outcome.ofMultiple, if_pos rfl]
  · refine Or.inr ⟨none, ?_⟩
    rw [← units]
    cases negative
    · exact Dyadic.hasValue_ofMultiple _ _ (mt zero.mpr none)
    · have value := Dyadic.hasValue_ofMultiple division.place (.zero true)
        (neg_ne_zero.mpr (mt zero.mpr none))
      rwa [Int.cast_neg, neg_mul] at value

end LibmAudit.Division
