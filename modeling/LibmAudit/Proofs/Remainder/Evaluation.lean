/-
**Multiprecision results that do not round.**

The values of a format are numbers of multiprecision arithmetic if its exponents are in range. With
two bits more than the format has they are not rounded, and going back gives their patterns.

* `Number.ofPattern_signBit_add`: a finite pattern is a number.
* `Outcome.round_of_hasValue`: an exact outcome that is a magnitude of the format is not rounded.
* `Number.toPattern_of_magnitude`: a magnitude of the format becomes its pattern, in every mode.
-/

import LibmAudit.Proofs.Remainder.Operand
import LibmAudit.Proofs.Rounding.Exact
import LibmAudit.Proofs.Rounding.TwoStep

namespace LibmAudit

attribute [local instance (high)] instPowNat

variable {format : Format} {ordinal : ℕ}

/-! ## Reading -/

/-- The leading digit of a finite magnitude is within the exponents of the format. -/
theorem Dyadic.top_bounds {value : Dyadic} (positive : 0 < ordinal)
    (finite : ordinal < format.infinityOrdinal)
    (same : value.magnitude = format.magnitudeAt ordinal) :
    format.placeAt ordinal < value.top ∧ value.top ≤ format.emax + 1 := by
  have log := log_magnitude (Format.significand_ne_zero positive same)
  have below := format.log_magnitudeAt_le positive finite
  have above := format.placeAt_le_log positive
  rw [same] at log
  omega

/-- The values of a format with exponents in range are multiprecision numbers. -/
theorem Number.ofPattern_signBit_add (ranged : format.emax + format.fractionBits < exponentLimit)
    (negative : Bool) (finite : ordinal < format.infinityOrdinal) :
    ofPattern format (format.signBit negative + ordinal : ℕ) =
      .ok (read format (format.signBit negative + ordinal : ℕ)) := by
  unfold ofPattern
  rw [read_signBit_add negative finite]
  by_cases zero : ordinal = 0
  · rw [if_pos zero]
  · obtain ⟨above, below⟩ := Dyadic.top_bounds (Nat.pos_of_ne_zero zero) finite
      (format.dyadicAt_magnitude negative ordinal)
    have lowest := format.lowestPlace_le_placeAt ordinal
    have length := bitLength_le_iff.mpr (format.significandAt_lt ordinal)
    have width := format.fractionBits_add_one
    have range := format.one_le_emax
    have inRange : isInRange (format.dyadicAt negative ordinal) = true := by
      rw [isInRange, decide_eq_true_eq]
      change (bitLength (format.significandAt ordinal) : ℤ) ≤ _ ∧
        _ ≤ format.placeAt ordinal + 1 ∧ format.placeAt ordinal < _ ∧ _
      unfold Format.lowestPlace Format.emin at lowest
      omega
    rw [if_neg zero]
    dsimp only
    rw [if_pos inRange]

/-! ## Rounding with more bits -/

/-- Without its trailing zeros a magnitude of the format has no more bits than the format. -/
theorem Dyadic.bitLength_reduced_of_magnitude {value : Dyadic} (positive : 0 < ordinal)
    (same : value.magnitude = format.magnitudeAt ordinal) :
    bitLength value.reduced.significand ≤ format.precision := by
  have odd := reduced_odd (Format.significand_ne_zero positive same)
  have least : value.reduced.significand ≤ (format.dyadicAt false ordinal).significand :=
    significand_le_of_odd odd (value.reduced_magnitude.trans same)
  exact bitLength_le_iff.mpr (least.trans_lt (format.significandAt_lt ordinal))

/-- The bits beyond those of the format are trailing zeros. -/
theorem Dyadic.two_pow_dvd_significand {value : Dyadic} {precision : ℕ} (positive : 0 < ordinal)
    (same : value.magnitude = format.magnitudeAt ordinal) (wide : format.precision ≤ precision) :
    2 ^ (bitLength value.significand - precision) ∣ value.significand := by
  have nonzero := Format.significand_ne_zero positive same
  have whole := stripTwos_mul (bitLength value.significand) value.significand
  have short := bitLength_reduced_of_magnitude positive same
  unfold reduced at short
  dsimp only at short
  have length := bitLength_mul_two_pow (left_ne_zero_of_mul (whole ▸ nonzero))
    (stripTwos (bitLength value.significand) value.significand).2
  rw [whole] at length
  conv_rhs => rw [← whole]
  exact Dvd.dvd.mul_left (pow_dvd_pow 2 (by omega)) _

namespace Outcome

/-- A magnitude of the format is not rounded. -/
theorem round_of_hasValue {outcome : Outcome} {negative : Bool} (mode : Mode)
    (ranged : format.emax + format.fractionBits < exponentLimit) (positive : 0 < ordinal)
    (finite : ordinal < format.infinityOrdinal)
    (value : outcome.HasValue (signed negative (format.magnitudeAt ordinal))) :
    ∃ number : Dyadic, outcome.round (format.precision + 2) mode = ⟨.finite number, 0, .none⟩ ∧
      number.negative = negative ∧ number.magnitude = format.magnitudeAt ordinal := by
  obtain ⟨exact, rfl, nonzero, same⟩ := value
  obtain ⟨sign, magnitude⟩ := signed_eq_signed (Dyadic.magnitude_pos nonzero).le
    (format.magnitudeAt_pos positive) same
  set excess := bitLength exact.significand - (format.precision + 2) with excess_eq
  obtain ⟨kept, whole⟩ := Dyadic.two_pow_dvd_significand positive magnitude
    (show format.precision ≤ format.precision + 2 by omega)
  rw [← excess_eq] at whole
  have quotient : exact.significand / 2 ^ excess = kept := by
    rw [whole, Nat.mul_div_cancel_left _ (Nat.two_pow_pos _)]
  have remainder : exact.significand % 2 ^ excess = 0 := by
    rw [whole, Nat.mul_mod_right]
  have number : (⟨exact.negative, kept, exact.exponent + excess⟩ : Dyadic).magnitude =
      format.magnitudeAt ordinal := by
    rw [← magnitude, Dyadic.magnitude, Dyadic.magnitude, whole, zpow_add₀ two_ne_zero, zpow_natCast]
    push_cast
    ring
  obtain ⟨above, below⟩ := Dyadic.top_bounds positive finite number
  have lowest := format.lowestPlace_le_placeAt ordinal
  unfold Format.lowestPlace Format.emin at lowest
  refine ⟨⟨exact.negative, kept, exact.exponent + excess⟩, ?_, sign, number⟩
  unfold Outcome.exact round roundTruncation Truncation.exact
  dsimp only
  rw [← excess_eq, quotient, remainder]
  simp only [bne_self_eq_false, Bool.or_self, Bool.false_and, Bool.false_eq_true, if_false]
  rw [if_neg (by omega), if_neg (by omega)]

end Outcome

/-! ## Going back -/

/-- A magnitude of the format becomes its pattern. -/
theorem Number.toPattern_of_magnitude {value : Dyadic} (mode : Mode) (precision : ℕ)
    (ranged : format.emax + format.fractionBits < exponentLimit) (positive : 0 < ordinal)
    (finite : ordinal < format.infinityOrdinal)
    (same : value.magnitude = format.magnitudeAt ordinal) :
    toPattern format mode (.finite value) false precision =
      .ok ⟨format.signBit value.negative + ordinal, .none⟩ := by
  have width := format.fractionBits_add_one
  have range := format.one_le_emax
  have short := Dyadic.bitLength_reduced_of_magnitude positive same
  have magnitude : (padded format value).magnitude = format.magnitudeAt ordinal := by
    rw [padded, widened_magnitude, Dyadic.reduced_magnitude, same]
  have nonzero : value.reduced.significand ≠ 0 :=
    Format.significand_ne_zero positive (value.reduced_magnitude.trans same)
  obtain ⟨above, -⟩ := Dyadic.top_bounds positive finite magnitude
  have length : bitLength (padded format value).significand = _ := bitLength_widened format nonzero
  unfold Dyadic.top at above
  refine Format.round_magnitudeAt mode value.negative positive finite magnitude ?_
  have limit := storageLimit_eq
  unfold exponentLimit at ranged
  omega

end LibmAudit
