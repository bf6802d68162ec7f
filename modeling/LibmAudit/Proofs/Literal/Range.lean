/-
**Patterns that fit.**

* `Format.infinity_lt`, `quietNaN_lt`: named patterns fit the format.
* `Format.roundExact_isRounding`, `round_outcome`: an exact magnitude is rounded correctly, unless
  more bits are rounded off than can be stored.
* `Format.IsRounding.raised_iff`: a rounding is inexact or overflows just if the number is no value
  of the format.
-/

import LibmAudit.Proofs.Rounding.Exact
import LibmAudit.Proofs.Rounding.Outcome
import LibmAudit.Proofs.Rounding.Ratio

namespace LibmAudit.Format

attribute [local instance (high)] instPowNat

variable (format : Format)

/-! ## Named patterns -/

theorem zero_lt (negative : Bool) : format.zero negative < 2 ^ format.totalBits :=
  format.signBit_add_lt negative (Nat.two_pow_pos _)

theorem infinity_lt (negative : Bool) : format.infinity negative < 2 ^ format.totalBits :=
  format.signBit_add_lt negative format.infinityOrdinal_lt

/-- An infinity and a fraction field. -/
theorem infinity_add_lt (negative : Bool) {fraction : ℕ}
    (small : fraction < 2 ^ format.fractionBits) :
    format.infinity negative + fraction < 2 ^ format.totalBits := by
  have room := format.infinityOrdinal_add
  have fits := format.signBit_add_lt negative
    (show format.infinityOrdinal + fraction < 2 ^ (format.totalBits - 1) by omega)
  rwa [← Nat.add_assoc] at fits

theorem quietNaN_lt (negative : Bool) : format.quietNaN negative < 2 ^ format.totalBits :=
  format.infinity_add_lt negative (Nat.pow_lt_pow_right (by decide)
    (Nat.sub_lt format.fractionBits_pos (by decide)))

/-! ## Exact magnitudes -/

theorem roundExact_isRounding (mode : Mode) (negative : Bool) (significand : ℕ) (exponent : ℤ) :
    format.IsRounding mode negative (significand * 2 ^ exponent)
      (format.roundExact mode negative significand exponent) := by
  unfold roundExact
  split
  · next zero =>
    rw [zero, Nat.cast_zero, zero_mul]
    exact format.zero_isRounding mode negative
  · next some =>
    have given : StandsFor significand exponent false (significand * 2 ^ exponent : ℝ) := rfl
    rw [roundAt_eq mode negative given some (Or.inr rfl)]
    exact format.roundReal_isRounding mode negative (given.pos some)

/-- An exact magnitude is rounded correctly, or more bits are rounded off than can be stored. -/
theorem round_outcome (mode : Mode) (negative : Bool) (significand : ℕ) (exponent : ℤ) :
    match format.round mode negative significand exponent false with
    | .ok result => format.IsRounding mode negative (significand * 2 ^ exponent) result ∧
        (significand = 0 ∨ format.placeFor significand exponent - exponent < storageLimit)
    | .error fault => (fault = .shiftTooWide ∨ fault = .outOfMemory) ∧ significand ≠ 0 ∧
        storageLimit ≤ format.placeFor significand exponent - exponent := by
  have rounding := format.roundExact_isRounding mode negative significand exponent
  unfold roundExact at rounding
  unfold round
  by_cases zero : significand = 0
  · rw [if_pos zero] at rounding ⊢
    exact ⟨rounding, Or.inl zero⟩
  rw [if_neg zero] at rounding ⊢
  dsimp only
  by_cases room : 0 < format.placeFor significand exponent - exponent
  · rw [if_pos room]
    cases checked : checkLength (format.placeFor significand exponent - exponent).toNat with
    | ok _ =>
      have short := checkLength_eq_ok_iff.mp checked
      exact ⟨rounding, Or.inr (by omega)⟩
    | error fault =>
      obtain ⟨refused, long⟩ := checkLength_eq_error checked
      exact ⟨refused, zero, by omega⟩
  · rw [if_neg room, if_neg Bool.false_ne_true]
    have limit := storageLimit_eq
    exact ⟨rounding, Or.inr (by omega)⟩

/-! ## Exceptions -/

variable {format}

/-- A real value of the format has a numbered magnitude. -/
theorem exists_magnitudeAt_of_mem_values {negative : Bool} {x : ℝ} (nonneg : 0 ≤ x)
    (member : ((signed negative x : ℝ) : EReal) ∈ format.values) :
    ∃ ordinal < format.infinityOrdinal, format.magnitudeAt ordinal = x := by
  obtain ⟨other, ordinal, -, same⟩ := (format.mem_values_iff _).mp member
  have finite : ordinal < format.infinityOrdinal := by
    by_contra beyond
    rw [extendedAt, if_neg beyond] at same
    cases other
    · exact absurd same (EReal.coe_ne_top _)
    · exact absurd same (EReal.coe_ne_bot _)
  rw [format.extendedAt_of_lt finite] at same
  have real : signed other (format.magnitudeAt ordinal) = signed negative x := by
    cases other <;> exact EReal.coe_injective same.symm
  refine ⟨ordinal, finite, ?_⟩
  rw [← abs_of_nonneg (format.magnitudeAt_nonneg ordinal), ← abs_signed other, real, abs_signed,
    abs_of_nonneg nonneg]

/-- A value of the format is rounded without an exception. -/
theorem IsRounding.flags_eq_none {mode : Mode} {negative : Bool} {x : ℝ} {result : Rounded}
    (rounding : format.IsRounding mode negative x result) (nonneg : 0 ≤ x)
    (member : ((signed negative x : ℝ) : EReal) ∈ format.values) : result.flags = .none := by
  obtain ⟨ordinal, finite, rfl⟩ := exists_magnitudeAt_of_mem_values nonneg member
  rcases Nat.eq_zero_or_pos ordinal with rfl | positive
  · rw [format.magnitudeAt_zero] at rounding
    rw [rounding.unique (format.zero_isRounding mode negative)]
  · rw [rounding.unique (format.roundReal_isRounding mode negative
      (format.magnitudeAt_pos positive)), format.roundReal_magnitudeAt mode negative positive finite]

/-- A rounding is inexact or overflows just if the number is no value of the format. -/
theorem IsRounding.raised_iff {mode : Mode} {negative : Bool} {x : ℝ} {result : Rounded}
    (rounding : format.IsRounding mode negative x result) (nonneg : 0 ≤ x) :
    (result.flags.inexact || result.flags.overflow) = true ↔
      ((signed negative x : ℝ) : EReal) ∉ format.values := by
  constructor
  · intro raised member
    rw [rounding.flags_eq_none nonneg member] at raised
    exact absurd raised (by decide)
  · intro other
    have inexact := rounding.inexact.mpr fun same =>
      other (same ▸ ⟨result.pattern, rounding.fits, rounding.isNumber, rfl⟩)
    rw [inexact, Bool.true_or]

end LibmAudit.Format
