/-
**Rounding in a direction.**

* `Format.isGreatest_clipped`, `isLeast_clipped`: the greatest value up to a positive number and the
  least one from it on, also beyond the largest finite value.
* `Format.isLeast_neg`, `isGreatest_neg`: for a negative number the two change places.
* `Format.roundReal_directed`: the four modes that do not look at the distance.
-/

import LibmAudit.Proofs.Rounding.Neighbours

namespace LibmAudit.Format

attribute [local instance (high)] instPowNat

variable (format : Format) {x : ℝ}

/-! ## Positive numbers -/

theorem extendedAt_mem_values {ordinal : ℕ} (number : ordinal ≤ format.infinityOrdinal) :
    format.extendedAt ordinal ∈ format.values :=
  (format.mem_values_iff _).mpr ⟨false, ordinal, number, rfl⟩

/-- Among the values up to a positive number, the finite ones, the greatest has the greatest
number. -/
theorem isGreatest_clipped (positive : 0 < x) :
    IsGreatest {value ∈ format.values | value ≤ (x : EReal)}
      (format.extendedAt (min (format.floorOrdinal x) (format.infinityOrdinal - 1))) := by
  have end_pos := format.infinityOrdinal_pos
  constructor
  · refine ⟨format.extendedAt_mem_values (by omega), ?_⟩
    refine (format.extendedAt_le_coe_iff).mpr ⟨by omega, ?_⟩
    exact (format.magnitudeAt_le_iff positive _).mpr (min_le_left _ _)
  · rintro value ⟨member, le⟩
    obtain ⟨negative, ordinal, -, rfl⟩ := (format.mem_values_iff _).mp member
    cases negative
    · obtain ⟨finite, le⟩ := (format.extendedAt_le_coe_iff).mp le
      have below := (format.magnitudeAt_le_iff positive _).mp le
      exact format.extendedAt_mono (by omega)
    · have nonneg := format.extendedAt_nonneg ordinal
      exact (EReal.neg_le_zero.mpr nonneg).trans (format.extendedAt_nonneg _)

/-- Among the values from a positive number on, the least has the least number. -/
theorem isLeast_clipped (negative : Bool) (positive : 0 < x) :
    IsLeast {value ∈ format.values | (x : EReal) ≤ value}
      (format.extendedAt
        (min (format.ordinalOf .awayFromZero negative x) format.infinityOrdinal)) := by
  constructor
  · refine ⟨format.extendedAt_mem_values (min_le_right _ _), (format.coe_le_extendedAt_iff).mpr ?_⟩
    rw [format.le_magnitudeAt_iff negative positive]
    omega
  · rintro value ⟨member, le⟩
    obtain ⟨sign, ordinal, -, rfl⟩ := (format.mem_values_iff _).mp member
    cases sign
    · have above := (format.coe_le_extendedAt_iff).mp le
      rw [format.le_magnitudeAt_iff negative positive] at above
      exact format.extendedAt_mono (by omega)
    · have nonpos : signed true (format.extendedAt ordinal) ≤ 0 :=
        EReal.neg_le_zero.mpr (format.extendedAt_nonneg ordinal)
      have : (x : EReal) ≤ 0 := le.trans nonpos
      exact absurd (by exact_mod_cast this) (not_le.mpr positive)

/-! ## Negative numbers -/

section

variable {format}

theorem isLeast_neg {y : ℝ} {value : EReal}
    (greatest : IsGreatest {value ∈ format.values | value ≤ (y : EReal)} value) :
    IsLeast {value ∈ format.values | ((-y : ℝ) : EReal) ≤ value} (-value) := by
  obtain ⟨⟨member, le⟩, bound⟩ := greatest
  rw [EReal.coe_neg]
  refine ⟨⟨format.neg_mem_values member, EReal.neg_le_neg_iff.mpr le⟩, fun other given => ?_⟩
  exact EReal.neg_le_of_neg_le
    (bound ⟨format.neg_mem_values given.1, EReal.neg_le_of_neg_le given.2⟩)

theorem isGreatest_neg {y : ℝ} {value : EReal}
    (least : IsLeast {value ∈ format.values | (y : EReal) ≤ value} value) :
    IsGreatest {value ∈ format.values | value ≤ ((-y : ℝ) : EReal)} (-value) := by
  obtain ⟨⟨member, le⟩, bound⟩ := least
  rw [EReal.coe_neg]
  refine ⟨⟨format.neg_mem_values member, EReal.neg_le_neg_iff.mpr le⟩, fun other given => ?_⟩
  exact EReal.le_neg_of_le_neg
    (bound ⟨format.neg_mem_values given.1, EReal.le_neg_of_le_neg given.2⟩)

end

/-! ## The modes -/

theorem roundsTo_towardZero (negative : Bool) (positive : 0 < x) :
    format.RoundsTo .towardZero negative x (format.signBit negative +
      min (format.floorOrdinal x) (format.infinityOrdinal - 1)) := by
  have greatest := format.isGreatest_clipped positive
  have value := format.valueOf_signBit_add negative
    ((min_le_right (format.floorOrdinal x) _).trans (Nat.sub_le format.infinityOrdinal 1))
  cases negative
  · change IsGreatest _ _
    rw [value]
    exact greatest
  · change IsLeast _ _
    rw [value]
    exact isLeast_neg greatest

theorem roundsTo_awayFromZero (negative : Bool) (positive : 0 < x) :
    format.RoundsTo .awayFromZero negative x (format.signBit negative +
      min (format.ordinalOf .awayFromZero negative x) format.infinityOrdinal) := by
  have least := format.isLeast_clipped negative positive
  have value := format.valueOf_signBit_add negative
    (min_le_right (format.ordinalOf .awayFromZero negative x) format.infinityOrdinal)
  cases negative
  · change IsLeast _ _
    rw [value]
    exact least
  · change IsGreatest _ _
    rw [value]
    exact isGreatest_neg least

/-- Up and down are toward zero or away from it by the sign. -/
theorem roundReal_directed {mode : Mode} (negative : Bool) (positive : 0 < x)
    (directed : mode ≠ .nearestEven ∧ mode ≠ .nearestAway) :
    format.RoundsTo mode negative x (format.roundReal mode negative x).pattern := by
  rw [format.roundReal_pattern]
  have inward := format.roundsTo_towardZero negative positive
  have outward := format.roundsTo_awayFromZero negative positive
  cases mode with
  | nearestEven => exact absurd rfl directed.1
  | nearestAway => exact absurd rfl directed.2
  | up => cases negative; exacts [outward, inward]
  | down => cases negative; exacts [inward, outward]
  | towardZero => exact inward
  | awayFromZero => exact outward

end LibmAudit.Format
