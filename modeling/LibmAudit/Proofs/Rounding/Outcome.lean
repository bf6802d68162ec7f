/-
**What rounding a significand gives.**

* `Format.roundSigned_correct`: a significand, an exponent and a sticky bit are rounded correctly,
  as any number that they stand for. They are refused when there is no bit below the last place for
  the sticky bit, and when more bits are rounded off than can be stored.
* `Format.roundSigned_shiftTooWide`: the second refusal meets numbers that have a correct rounding.
-/

import LibmAudit.Proofs.Rounding.Saturation
import LibmAudit.Proofs.Rounding.Unique

namespace LibmAudit.Format

attribute [local instance (high)] instPowNat

variable {format : Format}

/-- A shift is refused only when it is beyond memory. -/
theorem checkLength_eq_error {exponent : ℕ} {fault : Fault}
    (refused : checkLength exponent = .error fault) :
    (fault = .shiftTooWide ∨ fault = .outOfMemory) ∧ storageLimit ≤ exponent := by
  refine ⟨?_, not_lt.mp fun short => ?_⟩
  · unfold checkLength at refused
    split at refused
    · exact Or.inl (Except.error.inj refused).symm
    · split at refused
      · exact Or.inr (Except.error.inj refused).symm
      · exact absurd refused (by simp)
  · rw [checkLength_eq_ok short] at refused
    exact absurd refused (by simp)

theorem category_of_stickyWithoutRoom {width : ℕ} {exponent : ℤ} {fault : Fault}
    (refused : (refuse (.stickyWithoutRoom width exponent) : Except Fault Rounded) =
      .error fault) :
    fault.category = .value := by
  rw [← Except.error.inj refused]
  split <;> rfl

/-- **Rounding a significand gives the correct rounding** of every number that it stands for, with a
sticky bit or without one. It is refused in two cases, and in no other: a sticky bit is set and
nothing of the significand lies below the last place, or as many bits are rounded off as cannot be
stored. The first refusal is one of a value, the second is not. -/
theorem roundSigned_correct (format : Format) (mode : Mode) (negative : Bool) {significand : ℕ}
    {exponent : ℤ} {sticky : Bool} {x : ℝ} (positive : 1 ≤ significand)
    (given : StandsFor significand exponent sticky x) :
    match format.roundSigned mode negative significand exponent sticky with
    | .ok result => format.IsRounding mode negative x result ∧
        (∀ other, format.IsRounding mode negative x other → other = result) ∧
        (sticky = true → exponent < format.placeFor significand exponent) ∧
        format.placeFor significand exponent - exponent < storageLimit
    | .error fault =>
      (fault.category = .value ∧ sticky = true ∧
          format.placeFor significand exponent ≤ exponent) ∨
        ((fault = .shiftTooWide ∨ fault = .outOfMemory) ∧
          storageLimit ≤ format.placeFor significand exponent - exponent) := by
  have nonzero : significand ≠ 0 := Nat.pos_iff_ne_zero.mp positive
  have rounding := format.roundReal_isRounding mode negative (given.pos nonzero)
  have unsigned : format.roundSigned mode negative significand exponent sticky =
      format.round mode negative significand exponent sticky := by
    rw [roundSigned, if_neg (not_lt.mpr (Int.natCast_nonneg _)), Int.toNat_natCast]
  rw [unsigned]
  by_cases room : 0 < format.placeFor significand exponent - exponent ∨ sticky = false
  · by_cases short : format.placeFor significand exponent - exponent < storageLimit
    · rw [round_eq mode negative given nonzero room short]
      refine ⟨rounding, fun other correct => correct.unique rounding, fun isSticky => ?_, short⟩
      exact sub_pos.mp (room.resolve_right (Bool.not_eq_false _ ▸ isSticky))
    · have below : 0 < format.placeFor significand exponent - exponent := by
        have limit := storageLimit_eq
        omega
      rw [round, if_neg nonzero, if_pos below]
      cases checked : checkLength (format.placeFor significand exponent - exponent).toNat with
      | error fault =>
        obtain ⟨refused, long⟩ := checkLength_eq_error checked
        exact Or.inr ⟨refused, by omega⟩
      | ok _ =>
        have stored := checkLength_eq_ok_iff.mp checked
        omega
  · rw [not_or, Bool.not_eq_false] at room
    obtain ⟨coarse, rfl⟩ := room
    rw [round, if_neg nonzero, if_neg coarse, if_pos rfl]
    exact Or.inl ⟨category_of_stickyWithoutRoom rfl, rfl, by omega⟩

/-- A power of two far below the format, whose correct rounding is zero, is refused, and not for its
value. -/
theorem roundSigned_shiftTooWide :
    1 ≤ 1 ∧ StandsFor 1 (-2 ^ (80 : ℕ)) false (2 ^ (-2 ^ (80 : ℕ) : ℤ)) ∧
      double.IsRounding .nearestEven false (2 ^ (-2 ^ (80 : ℕ) : ℤ))
        ⟨double.zero false, { underflow := true, inexact := true }⟩ ∧
      double.roundSigned .nearestEven false (1 : ℕ) (-2 ^ (80 : ℕ)) false = .error .shiftTooWide ∧
      Fault.shiftTooWide.category = .overflow := by
  have given : StandsFor 1 (-2 ^ (80 : ℕ)) false (2 ^ (-2 ^ (80 : ℕ) : ℤ)) := by
    rw [StandsFor, if_neg Bool.false_ne_true, Nat.cast_one, one_mul]
  have positive := given.pos one_ne_zero
  have small : (2 : ℝ) ^ (-2 ^ (80 : ℕ) : ℤ) < 2 ^ (double.lowestPlace - 1) :=
    zpow_lt_zpow_right₀ one_lt_two (by decide)
  have zero : Mode.nearestEven.roundToInteger false (1 / 4) = 0 := nearestEvenInteger_quarter
  have rounding := double.roundReal_isRounding .nearestEven false positive
  rw [double.roundReal_of_small .nearestEven false positive small, zero] at rounding
  exact ⟨le_rfl, given, rounding, rfl, rfl⟩

/-- A little more than halfway between two values of the half format. -/
theorem roundSigned_correct_half :
    1 ≤ 4098 ∧ StandsFor 4098 0 true (8197 / 2) ∧
      half.IsRounding .nearestEven false (8197 / 2) ⟨27649, { inexact := true }⟩ := by
  have given : StandsFor 4098 0 true (8197 / 2) := by
    rw [StandsFor, if_pos rfl]
    norm_num
  have evaluated : half.roundSigned .nearestEven false (4098 : ℕ) 0 true =
      .ok ⟨27649, { inexact := true }⟩ := by rfl
  have correct := roundSigned_correct half .nearestEven false (by decide : 1 ≤ 4098) given
  rw [evaluated] at correct
  exact ⟨by decide, given, correct.1⟩

end LibmAudit.Format
