/-
**Rounding what is a magnitude already.**

* `Format.ordinalOf_magnitudeAt`: a magnitude is rounded to itself.
* `Format.roundReal_magnitudeAt`: its pattern has its number, and there is no exception.
* `Format.roundAt_magnitudeAt`, `roundExact_magnitudeAt`, `round_magnitudeAt`: the same for a
  significand with an exponent.
-/

import LibmAudit.Proofs.Rounding.Range

namespace LibmAudit.Format

attribute [local instance (high)] instPowNat

variable (format : Format)

theorem floorOrdinal_magnitudeAt {ordinal : ℕ} (positive : 0 < ordinal) :
    format.floorOrdinal (format.magnitudeAt ordinal) = ordinal := by
  have pos := format.magnitudeAt_pos positive
  refine le_antisymm ?_ ((format.magnitudeAt_le_iff pos _).mp le_rfl)
  exact format.magnitudeAt_strictMono.le_iff_le.mp (format.magnitudeAt_floorOrdinal_le pos)

theorem scaledReal_magnitudeAt {ordinal : ℕ} (positive : 0 < ordinal) :
    format.scaledReal (format.magnitudeAt ordinal) =
      ⌊format.scaledReal (format.magnitudeAt ordinal)⌋₊ := by
  rw [← format.magnitudeAt_floorOrdinal_eq_iff (format.magnitudeAt_pos positive),
    floorOrdinal_magnitudeAt _ positive]

theorem ordinalOf_magnitudeAt (mode : Mode) (negative : Bool) {ordinal : ℕ}
    (positive : 0 < ordinal) :
    format.ordinalOf mode negative (format.magnitudeAt ordinal) = ordinal := by
  have pos := format.magnitudeAt_pos positive
  have same := (format.magnitudeAt_ordinalOf_eq_iff mode negative pos).mpr
    (format.scaledReal_magnitudeAt positive)
  exact format.magnitudeAt_strictMono.injective same

/-- A finite magnitude keeps its number and raises nothing. -/
theorem roundReal_magnitudeAt (mode : Mode) (negative : Bool) {ordinal : ℕ}
    (positive : 0 < ordinal) (finite : ordinal < format.infinityOrdinal) :
    format.roundReal mode negative (format.magnitudeAt ordinal) =
      ⟨format.signBit negative + ordinal, .none⟩ := by
  have whole := format.scaledReal_magnitudeAt positive
  unfold roundReal packNumber
  rw [ordinalOf_magnitudeAt _ _ _ positive, if_neg (not_le.mpr finite),
    decide_eq_false (not_not.mpr whole)]
  rfl

variable {format} {significand ordinal : ℕ} {exponent : ℤ}

theorem significand_ne_zero (positive : 0 < ordinal)
    (same : significand * 2 ^ exponent = format.magnitudeAt ordinal) : significand ≠ 0 := by
  rintro rfl
  rw [Nat.cast_zero, zero_mul] at same
  exact (format.magnitudeAt_pos positive).ne same

theorem roundAt_magnitudeAt (mode : Mode) (negative : Bool) (positive : 0 < ordinal)
    (finite : ordinal < format.infinityOrdinal)
    (same : significand * 2 ^ exponent = format.magnitudeAt ordinal) :
    format.roundAt mode negative significand exponent false =
      ⟨format.signBit negative + ordinal, .none⟩ := by
  have given : StandsFor significand exponent false (format.magnitudeAt ordinal) := same.symm
  rw [roundAt_eq mode negative given (significand_ne_zero positive same) (Or.inr rfl),
    format.roundReal_magnitudeAt mode negative positive finite]

theorem roundExact_magnitudeAt (mode : Mode) (negative : Bool) (positive : 0 < ordinal)
    (finite : ordinal < format.infinityOrdinal)
    (same : significand * 2 ^ exponent = format.magnitudeAt ordinal) :
    format.roundExact mode negative significand exponent =
      ⟨format.signBit negative + ordinal, .none⟩ := by
  rw [roundExact, if_neg (significand_ne_zero positive same)]
  exact roundAt_magnitudeAt mode negative positive finite same

/-! ## The leading digit -/

variable (format) in
theorem placeAt_le_log {ordinal : ℕ} (positive : 0 < ordinal) :
    format.placeAt ordinal ≤ Int.log 2 (format.magnitudeAt ordinal) := by
  have pos := format.magnitudeAt_pos positive
  refine (Int.zpow_le_iff_le_log one_lt_two pos).mp ?_
  have whole : format.significandAt ordinal ≠ 0 := by
    intro zero
    rw [magnitudeAt, zero, Nat.cast_zero, zero_mul] at pos
    exact lt_irrefl _ pos
  have one : (1 : ℝ) ≤ format.significandAt ordinal := by
    exact_mod_cast Nat.one_le_iff_ne_zero.mpr whole
  rw [magnitudeAt, Nat.cast_ofNat]
  exact le_mul_of_one_le_left (by positivity) one

variable (format) in
theorem lowestPlace_le_placeAt (ordinal : ℕ) : format.lowestPlace ≤ format.placeAt ordinal := by
  unfold placeAt
  omega

variable (format) in
theorem log_magnitudeAt_le {ordinal : ℕ} (positive : 0 < ordinal)
    (finite : ordinal < format.infinityOrdinal) :
    Int.log 2 (format.magnitudeAt ordinal) ≤ format.emax := by
  have below := format.magnitudeAt_strictMono finite
  rw [magnitudeAt_infinityOrdinal] at below
  refine Int.lt_add_one_iff.mp ?_
  refine (Int.lt_zpow_iff_log_lt one_lt_two (format.magnitudeAt_pos positive)).mp ?_
  exact_mod_cast below

/-- The last place that a magnitude keeps is not above its own last place. -/
theorem placeFor_le_placeAt (positive : 0 < ordinal)
    (same : significand * 2 ^ exponent = format.magnitudeAt ordinal) :
    format.placeFor significand exponent ≤ format.placeAt ordinal := by
  have given : StandsFor significand exponent false (format.magnitudeAt ordinal) := same.symm
  have below : Int.log 2 (format.magnitudeAt ordinal) <
      format.placeAt ordinal + format.precision := by
    refine (Int.lt_zpow_iff_log_lt one_lt_two (format.magnitudeAt_pos positive)).mp ?_
    rw [magnitudeAt, Nat.cast_ofNat, zpow_add₀ two_ne_zero, zpow_natCast, mul_comm]
    have small : (format.significandAt ordinal : ℝ) < (2 ^ format.precision : ℕ) := by
      exact_mod_cast format.significandAt_lt ordinal
    push_cast at small
    exact mul_lt_mul_of_pos_left small (by positivity)
  have lowest := format.lowestPlace_le_placeAt ordinal
  have width := format.fractionBits_add_one
  rw [given.log_eq (significand_ne_zero positive same)] at below
  unfold lowestPlace at lowest
  unfold placeFor
  omega

/-- A magnitude is rounded to itself, unless more bits are rounded off than can be stored. -/
theorem round_magnitudeAt (mode : Mode) (negative : Bool) (positive : 0 < ordinal)
    (finite : ordinal < format.infinityOrdinal)
    (same : significand * 2 ^ exponent = format.magnitudeAt ordinal)
    (short : format.placeAt ordinal - exponent < storageLimit) :
    format.round mode negative significand exponent false =
      .ok ⟨format.signBit negative + ordinal, .none⟩ := by
  have given : StandsFor significand exponent false (format.magnitudeAt ordinal) := same.symm
  have place := placeFor_le_placeAt positive same
  rw [round_eq mode negative given (significand_ne_zero positive same) (Or.inr rfl) (by omega),
    format.roundReal_magnitudeAt mode negative positive finite]

end LibmAudit.Format
