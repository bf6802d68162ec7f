/-
**Rounding is correct.**

* `Format.roundReal_roundsTo`: the pattern has the value that the mode asks for.
* `Format.valueOf_roundReal_ne_iff`: when the result is not the number itself.
* `Format.roundReal_isRounding`: pattern and exceptions of a rounded number.
-/

import LibmAudit.Proofs.Rounding.Directed
import LibmAudit.Proofs.Rounding.Nearest
import LibmAudit.Proofs.Rounding.Range

namespace LibmAudit.Format

attribute [local instance (high)] instPowNat

variable (format : Format) {x : ℝ}

/-! ## Patterns -/

theorem clipped_le (mode : Mode) (negative : Bool) (ordinal : ℕ) :
    min ordinal (format.lastOrdinal mode negative) ≤ format.infinityOrdinal :=
  (min_le_right _ _).trans (format.lastOrdinal_le mode negative)

theorem roundReal_roundsTo (mode : Mode) (negative : Bool) (positive : 0 < x) :
    format.RoundsTo mode negative x (format.roundReal mode negative x).pattern := by
  by_cases directed : mode ≠ .nearestEven ∧ mode ≠ .nearestAway
  · exact format.roundReal_directed negative positive directed
  · rw [not_and_or, not_not, not_not] at directed
    rcases directed with rfl | rfl
    · exact format.roundReal_nearestEven negative positive
    · exact format.roundReal_nearestAway negative positive

/-- A rounded number is off when its significand had a part below the last place. -/
theorem valueOf_roundReal_ne_iff (mode : Mode) (negative : Bool) (positive : 0 < x) :
    format.valueOf (format.roundReal mode negative x).pattern ≠ (signed negative x : ℝ) ↔
      format.infinityOrdinal ≤ format.ordinalOf mode negative x ∨
        format.scaledReal x ≠ ⌊format.scaledReal x⌋₊ := by
  have cast : ((signed negative x : ℝ) : EReal) = signed negative (x : EReal) := by
    cases negative <;> rfl
  have injective : ∀ value : EReal, signed negative value = signed negative (x : EReal) ↔
      value = x := by
    cases negative
    · exact fun _ => Iff.rfl
    · exact fun _ => neg_inj
  rw [format.roundReal_pattern, valueOf_signBit_add _ _ (format.clipped_le mode negative _), cast,
    Ne, injective]
  rcases Nat.lt_or_ge (format.ordinalOf mode negative x) format.infinityOrdinal with
    finite | overflow
  · have last : format.infinityOrdinal - 1 ≤ format.lastOrdinal mode negative := by
      unfold lastOrdinal
      split <;> omega
    rw [min_eq_left (by omega), extendedAt_of_lt _ finite, EReal.coe_eq_coe_iff,
      format.magnitudeAt_ordinalOf_eq_iff mode negative positive, or_iff_right (not_le.mpr finite)]
  · rw [min_eq_right ((format.lastOrdinal_le mode negative).trans overflow)]
    refine iff_of_true ?_ (Or.inl overflow)
    unfold lastOrdinal
    by_cases outward : mode.overflowsToInfinity negative = true
    · rw [if_pos outward, extendedAt_infinityOrdinal]
      exact EReal.top_ne_coe x
    · -- Rounding toward zero overflows only from a number beyond the finite values.
      have number := format.ordinalOf_of_inward (x := x)
        (Bool.eq_false_iff.mpr outward)
      rw [number] at overflow
      have beyond := (format.magnitudeAt_le_iff positive _).mpr overflow
      have pred := Nat.sub_one_lt format.infinityOrdinal_pos.ne'
      rw [if_neg outward, extendedAt_of_lt _ pred, EReal.coe_eq_coe_iff]
      exact ((format.magnitudeAt_strictMono pred).trans_le beyond).ne

/-! ## Exceptions -/

theorem roundReal_overflow (mode : Mode) (negative : Bool) (x : ℝ) :
    (format.roundReal mode negative x).flags.overflow = true ↔
      format.infinityOrdinal ≤ format.ordinalOf mode negative x := by
  unfold roundReal packNumber
  split
  · next above => exact iff_of_true rfl above
  · next below => exact iff_of_false (by simp [inexactFlags]) below

theorem roundReal_inexact (mode : Mode) (negative : Bool) (x : ℝ) :
    (format.roundReal mode negative x).flags.inexact = true ↔
      format.infinityOrdinal ≤ format.ordinalOf mode negative x ∨
        format.scaledReal x ≠ ⌊format.scaledReal x⌋₊ := by
  unfold roundReal packNumber
  split
  · next above => exact iff_of_true rfl (Or.inl above)
  · next below => rw [or_iff_right below, inexactFlags, decide_eq_true_eq]

theorem roundReal_underflow (mode : Mode) (negative : Bool) (x : ℝ) :
    (format.roundReal mode negative x).flags.underflow = true ↔
      format.scaledReal x ≠ ⌊format.scaledReal x⌋₊ ∧ x < 2 ^ format.emin := by
  unfold roundReal packNumber
  split <;> simp [inexactFlags]

theorem roundReal_noOther (mode : Mode) (negative : Bool) (x : ℝ) :
    (format.roundReal mode negative x).flags.invalid = false ∧
      (format.roundReal mode negative x).flags.divideByZero = false ∧
      (format.roundReal mode negative x).flags.unnamed = 0 := by
  unfold roundReal packNumber
  split <;> exact ⟨rfl, rfl, rfl⟩

/-- Pattern and exceptions of a positive number with a sign are correct. -/
theorem roundReal_isRounding (mode : Mode) (negative : Bool) (positive : 0 < x) :
    format.IsRounding mode negative x (format.roundReal mode negative x) := by
  have small := (format.clipped_le mode negative (format.ordinalOf mode negative x)).trans_lt
    format.infinityOrdinal_lt
  refine ⟨?_, ?_, ?_, format.roundReal_roundsTo mode negative positive, ?_, ?_, ?_,
    format.roundReal_noOther mode negative x⟩
  · rw [format.roundReal_pattern]
    exact format.signBit_add_lt negative small
  · rw [format.roundReal_pattern, isNaN_eq_false_iff, magnitudeField_signBit_add _ _ small]
    exact format.clipped_le mode negative _
  · rw [format.roundReal_pattern, isNegative_signBit_add _ _ small]
  · rw [format.valueOf_roundReal_ne_iff mode negative positive, format.roundReal_inexact]
  · rw [format.roundReal_underflow, format.roundReal_inexact]
    refine and_congr_left fun tiny => ?_
    rw [or_iff_right (not_le.mpr (format.ordinalOf_lt_of_tiny mode negative positive tiny))]
  · rw [format.roundReal_overflow, format.infinityOrdinal_le_ordinalOf_iff mode negative positive]

end LibmAudit.Format
