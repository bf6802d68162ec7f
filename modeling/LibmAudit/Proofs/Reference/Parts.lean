/-
**Patterns by class.**

* `Format.isNaN_quietNaN`: the named NaN is one.
* `Reference.parts?_signBit_add`: the parts of a finite value that is not zero.
* `Reference.parts?_of_not_finite`, `parts?_zero`: the other values have none.
* `Reference.Class`, `class_of_fits`: the class of a pattern of the format, with its parts.
-/

import LibmAudit.Proofs.Remainder.Operand
import LibmAudit.Reference.Exact

namespace LibmAudit

attribute [local instance (high)] instPowNat

namespace Format

variable (format : Format)

theorem scaled?_of_not_finite {pattern : ℤ} (notFinite : format.isFinite pattern = false) :
    format.scaled? pattern = none := by
  have field : format.exponentField pattern = format.exponentMask := by
    simpa [isFinite] using notFinite
  have mask := format.exponentMask_eq
  have range := format.one_le_emax
  unfold scaled?
  dsimp only
  rw [field, if_neg (by omega), if_neg (by omega)]

theorem isFinite_eq_false_of_isNaN {pattern : ℤ} (nan : format.isNaN pattern = true) :
    format.isFinite pattern = false := by
  rw [Bool.eq_false_iff, Ne, isFinite_iff, not_lt]
  exact ((format.isNaN_iff pattern).mp nan).le

theorem isFinite_eq_false_of_isInfinite {pattern : ℤ}
    (infinite : format.isInfinite pattern = true) : format.isFinite pattern = false := by
  rw [Bool.eq_false_iff, Ne, isFinite_iff, not_lt]
  exact ((format.isInfinite_iff pattern).mp infinite).ge

theorem isNaN_quietNaN (negative : Bool) : format.isNaN (format.quietNaN negative) = true := by
  have room := format.infinityOrdinal_add
  have quiet := Nat.two_pow_pos (format.fractionBits - 1)
  have double : 2 ^ (format.fractionBits - 1) < 2 ^ format.fractionBits :=
    Nat.pow_lt_pow_right (by decide) (Nat.sub_lt format.fractionBits_pos (by decide))
  have pattern : format.quietNaN negative = format.signBit negative +
      (format.infinityOrdinal + 2 ^ (format.fractionBits - 1)) := Nat.add_assoc ..
  rw [isNaN_iff, pattern, format.magnitudeField_signBit_add negative (by omega)]
  omega

theorem significandAt_ne_zero {ordinal : ℕ} (positive : 0 < ordinal) :
    format.significandAt ordinal ≠ 0 :=
  format.dyadicAt_significand false positive

end Format

namespace Reference

variable {format : Format}

theorem parts?_of_not_finite {pattern : ℕ} (notFinite : format.isFinite pattern = false) :
    parts? format pattern = none := by
  rw [parts?, format.scaled?_of_not_finite notFinite]

theorem parts?_of_isNaN {pattern : ℕ} (nan : format.isNaN pattern = true) :
    parts? format pattern = none :=
  parts?_of_not_finite (format.isFinite_eq_false_of_isNaN nan)

theorem parts?_of_isInfinite {pattern : ℕ} (infinite : format.isInfinite pattern = true) :
    parts? format pattern = none :=
  parts?_of_not_finite (format.isFinite_eq_false_of_isInfinite infinite)

/-- The parts of a finite value that is not zero. -/
theorem parts?_signBit_add (negative : Bool) {ordinal : ℕ} (positive : 0 < ordinal)
    (finite : ordinal < format.infinityOrdinal) :
    parts? format (format.signBit negative + ordinal) =
      some ⟨negative, format.significandAt ordinal, format.placeAt ordinal⟩ := by
  have nonzero := format.significandAt_ne_zero positive
  rw [parts?, Number.scaled?_signBit_add negative finite]
  cases negative <;> simp [nonzero, Nat.pos_of_ne_zero nonzero]

theorem parts?_zero (negative : Bool) : parts? format (format.zero negative) = none := by
  have first := format.infinityOrdinal_pos
  rw [parts?, ← Nat.add_zero (format.zero negative), Format.zero,
    Number.scaled?_signBit_add negative first]
  cases negative <;> simp [Format.significandAt]

/-! ## Classes -/

/-- The class of a pattern of the format. Finite values that are not zero have parts. -/
inductive Class (format : Format) (pattern : ℕ) : Prop
  | nan (isNaN : format.isNaN pattern = true) (isInfinite : format.isInfinite pattern = false)
      (parts : parts? format pattern = none)
  | infinite (negative : Bool) (same : pattern = format.infinity negative)
      (isNaN : format.isNaN pattern = false) (isInfinite : format.isInfinite pattern = true)
      (parts : parts? format pattern = none)
  | zero (negative : Bool) (same : pattern = format.zero negative)
      (isNaN : format.isNaN pattern = false) (isInfinite : format.isInfinite pattern = false)
      (isZero : format.isZero pattern = true) (parts : parts? format pattern = none)
  | finite (negative : Bool) (ordinal : ℕ) (positive : 0 < ordinal)
      (finite : ordinal < format.infinityOrdinal)
      (same : pattern = format.signBit negative + ordinal)
      (isNaN : format.isNaN pattern = false) (isInfinite : format.isInfinite pattern = false)
      (isZero : format.isZero pattern = false)
      (parts : parts? format pattern =
        some ⟨negative, format.significandAt ordinal, format.placeAt ordinal⟩)

theorem class_of_fits {pattern : ℕ} (fits : pattern < 2 ^ format.totalBits) :
    Class format pattern := by
  have isNaN := format.isNaN_iff pattern
  have isInfinite := format.isInfinite_iff pattern
  have isZero := format.isZero_iff pattern
  have first := format.infinityOrdinal_pos
  have whole := format.signBit_add_magnitudeField fits
  rcases lt_trichotomy (format.magnitudeField pattern) format.infinityOrdinal with
    below | top | above
  · have number : format.isNaN pattern = false := by
      rw [Bool.eq_false_iff, Ne, isNaN]
      omega
    have bounded : format.isInfinite pattern = false := by
      rw [Bool.eq_false_iff, Ne, isInfinite]
      omega
    rcases Nat.eq_zero_or_pos (format.magnitudeField pattern) with none | positive
    · rw [none, Nat.add_zero] at whole
      refine .zero (format.isNegative pattern) whole.symm number bounded (isZero.mpr none) ?_
      rw [← whole]
      exact parts?_zero _
    · refine .finite (format.isNegative pattern) _ positive below whole.symm number bounded ?_ ?_
      · rw [Bool.eq_false_iff, Ne, isZero]
        exact positive.ne'
      · have parts := parts?_signBit_add (format.isNegative pattern) positive below
        rwa [whole] at parts
  · refine .infinite (format.isNegative pattern) ?_ ?_ (isInfinite.mpr top)
      (parts?_of_isInfinite (isInfinite.mpr top))
    · rw [top] at whole
      exact whole.symm
    · rw [Bool.eq_false_iff, Ne, isNaN]
      exact top.not_gt
  · refine .nan (isNaN.mpr above) ?_ (parts?_of_isNaN (isNaN.mpr above))
    rw [Bool.eq_false_iff, Ne, isInfinite]
    exact above.ne'

end Reference

end LibmAudit
