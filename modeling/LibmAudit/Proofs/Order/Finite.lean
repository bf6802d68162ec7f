/-
**The order of the values.**

Finite patterns have real values in the order of their ordinals.

* `Format.valueOf_eq_iff`, `valueOf_lt_iff`: values are equal with their ordinals, and in their order.
* `Format.valueOf_of_finite`, `isFinite_of_valueOf`: finite patterns have real values, and only
  they.
* `Format.realOf_lt_iff`, `realOf_le_iff`, `realOf_sign`: the order, and the side of zero.
-/

import LibmAudit.Proofs.Order.Ordinal
import LibmAudit.Proofs.Rounding.Ratio

namespace LibmAudit.Format

attribute [local instance (high)] instPowNat

variable (format : Format) {first second : ℕ}

theorem valueOf_eq_iff (fits : first < 2 ^ format.totalBits)
    (fits' : second < 2 ^ format.totalBits) (number : format.isNaN first = false)
    (number' : format.isNaN second = false) :
    format.valueOf first = format.valueOf second ↔
      format.toOrdinal first = format.toOrdinal second := by
  rw [← format.scaledValue_eq number, ← format.scaledValue_eq number',
    format.scaledValue_eq_iff fits fits' number number']

theorem valueOf_lt_iff (fits : first < 2 ^ format.totalBits)
    (fits' : second < 2 ^ format.totalBits) (number : format.isNaN first = false)
    (number' : format.isNaN second = false) :
    format.valueOf first < format.valueOf second ↔
      format.toOrdinal first < format.toOrdinal second := by
  rw [← format.scaledValue_eq number, ← format.scaledValue_eq number',
    format.scaledValue_lt_iff fits fits' number number']

theorem isNaN_of_finite {pattern : ℤ} (finite : format.isFinite pattern = true) :
    format.isNaN pattern = false :=
  (format.isNaN_eq_false_iff pattern).mpr ((format.isFinite_iff pattern).mp finite).le

theorem valueOf_of_finite {pattern : ℤ} (finite : format.isFinite pattern = true) :
    format.valueOf pattern = format.realOf pattern := by
  rw [← format.scaledValue_eq (format.isNaN_of_finite finite), format.scaledValue_of_finite finite]

/-- A value other than the infinities is finite. -/
theorem isFinite_of_valueOf {pattern : ℤ} (number : format.isNaN pattern = false)
    (below : format.valueOf pattern ≠ ⊤) (above : format.valueOf pattern ≠ ⊥) :
    format.isFinite pattern = true := by
  rw [isNaN_eq_false_iff] at number
  rw [isFinite_iff]
  refine lt_of_le_of_ne number fun infinite => ?_
  rw [valueOf, if_pos ((format.isInfinite_iff pattern).mpr infinite)] at below above
  cases sign : format.isNegative pattern <;> rw [sign] at below above
  · exact below rfl
  · exact above rfl

/-- Finite values have the order of their ordinals. -/
theorem realOf_lt_iff (fits : first < 2 ^ format.totalBits) (fits' : second < 2 ^ format.totalBits)
    (finite : format.isFinite first = true) (finite' : format.isFinite second = true) :
    format.realOf first < format.realOf second ↔
      format.toOrdinal first < format.toOrdinal second := by
  rw [← EReal.coe_lt_coe_iff, ← format.scaledValue_of_finite finite,
    ← format.scaledValue_of_finite finite']
  exact format.scaledValue_lt_iff fits fits' (format.isNaN_of_finite finite)
    (format.isNaN_of_finite finite')

theorem realOf_le_iff (fits : first < 2 ^ format.totalBits) (fits' : second < 2 ^ format.totalBits)
    (finite : format.isFinite first = true) (finite' : format.isFinite second = true) :
    format.realOf first ≤ format.realOf second ↔
      format.toOrdinal first ≤ format.toOrdinal second := by
  rw [← not_lt, ← not_lt, format.realOf_lt_iff fits' fits finite' finite]

/-- They are on the side of zero where their ordinals are. -/
theorem realOf_sign (fits : first < 2 ^ format.totalBits) (finite : format.isFinite first = true) :
    (format.realOf first < 0 ↔ format.toOrdinal first < 0) ∧
      (0 < format.realOf first ↔ 0 < format.toOrdinal first) := by
  have zero_fits : format.zero false < 2 ^ format.totalBits := Nat.two_pow_pos _
  have zero_finite : format.isFinite (format.zero false : ℕ) = true := by
    rw [isFinite_iff, show format.magnitudeField (format.zero false : ℕ) = 0 from
      format.magnitudeField_signBit_add false (Nat.two_pow_pos _)]
    exact format.infinityOrdinal_pos
  have zero_ordinal : format.toOrdinal (format.zero false : ℕ) = 0 :=
    @Format.toOrdinal_ofOrdinal format 0 (Nat.two_pow_pos _)
  have below := format.realOf_lt_iff fits zero_fits finite zero_finite
  have above := format.realOf_lt_iff zero_fits fits zero_finite finite
  rw [format.realOf_zero false, zero_ordinal] at below above
  exact ⟨below, above⟩

end LibmAudit.Format
