/-
**Beyond both ends of the range.**

All numbers below half the smallest magnitude are rounded alike in each mode, and so are all numbers
from the power of two after the largest finite value on. Values that are scaled by far enough are
all at one end or the other, so that the power may be clamped.

* `Mode.roundToInteger_of_lt_half`: below one half each mode takes one integer.
* `Format.roundReal_of_small`, `roundReal_of_large`: the roundings at the ends.
* `Format.roundReal_clamped`: a scaled magnitude with a clamped power.
* `Format.roundExact_of_small`, `roundExact_clamped`: the same for significands.
-/

import LibmAudit.Proofs.Rounding.Exact

namespace LibmAudit

attribute [local instance (high)] instPowNat

/-- A positive number below one half is rounded as one quarter. -/
theorem Mode.roundToInteger_of_lt_half (mode : Mode) (negative : Bool) {x : ℝ} (positive : 0 < x)
    (small : x < 1 / 2) : mode.roundToInteger negative x = mode.roundToInteger negative (1 / 4) := by
  have floor (y : ℝ) (below : y < 1 / 2) : ⌊y⌋₊ = 0 := Nat.floor_eq_zero.mpr (by linarith)
  have half (y : ℝ) (below : y < 1 / 2) : ⌊y + 1 / 2⌋₊ = 0 := Nat.floor_eq_zero.mpr (by linarith)
  have ceil (y : ℝ) (above : 0 < y) (below : y < 1 / 2) : ⌈y⌉₊ = 1 := by
    rw [Nat.ceil_eq_iff one_ne_zero]
    constructor
    · simpa using above
    · push_cast
      linarith
  have even (y : ℝ) (below : y < 1 / 2) : nearestEvenInteger y = 0 := by
    unfold nearestEvenInteger
    rw [floor y below, Nat.cast_zero, sub_zero, if_pos (Or.inl below)]
  have quarter : (1 / 4 : ℝ) < 1 / 2 := by norm_num
  have floors := (floor x small).trans (floor _ quarter).symm
  have halves := (half x small).trans (half _ quarter).symm
  have ceils := (ceil x positive small).trans (ceil _ (by norm_num) quarter).symm
  have evens := (even x small).trans (even _ quarter).symm
  cases mode <;> cases negative <;> assumption

theorem nearestEvenInteger_quarter : nearestEvenInteger (1 / 4) = 0 := by
  have floor : ⌊(1 / 4 : ℝ)⌋₊ = 0 := Nat.floor_eq_zero.mpr (by norm_num)
  rw [nearestEvenInteger, floor, if_pos (Or.inl (by norm_num))]

namespace Format

variable (format : Format) {x y : ℝ}

/-! ## The ends -/

theorem magnitudeAt_one : format.magnitudeAt 1 = 2 ^ format.lowestPlace := by
  have next := format.magnitudeAt_succ 0
  rw [Nat.zero_add, format.magnitudeAt_zero, zero_add] at next
  rw [next]
  simp [placeAt, placeIndexAt]

theorem indexOf_of_small (positive : 0 < x) (small : x < 2 ^ format.emin) :
    format.indexOf x = 0 := by
  have log : Int.log 2 x < format.emin :=
    (Int.lt_zpow_iff_log_lt one_lt_two positive).mp (by exact_mod_cast small)
  unfold indexOf placeOf lowestPlace
  omega

/-- Below half the smallest magnitude a number in units of the last place is below one half. -/
theorem scaledReal_of_small (positive : 0 < x) (small : x < 2 ^ (format.lowestPlace - 1)) :
    format.indexOf x = 0 ∧ x < 2 ^ format.emin ∧ 0 < format.scaledReal x ∧
      format.scaledReal x < 1 / 2 := by
  have width := format.fractionBits_pos
  have unit : (2 : ℝ) ^ format.lowestPlace = 2 ^ (format.lowestPlace - 1) * 2 := by
    rw [← zpow_add_one₀ two_ne_zero, sub_add_cancel]
  have tiny : x < 2 ^ format.emin :=
    small.trans_le (zpow_le_zpow_right₀ one_le_two (by unfold lowestPlace; omega))
  have index := format.indexOf_of_small positive tiny
  have place : format.placeOf x = format.lowestPlace := by
    rw [format.placeOf_eq, index, Nat.cast_zero, add_zero]
  refine ⟨index, tiny, div_pos positive (by positivity), ?_⟩
  rw [scaledReal, place, div_lt_iff₀ (by positivity), unit]
  linarith

/-- Below half the smallest magnitude a mode takes one neighbour of zero for all numbers. -/
theorem ordinalOf_of_small (mode : Mode) (negative : Bool) (positive : 0 < x)
    (small : x < 2 ^ (format.lowestPlace - 1)) :
    format.ordinalOf mode negative x = mode.roundToInteger negative (1 / 4) := by
  obtain ⟨index, -, above, below⟩ := format.scaledReal_of_small positive small
  rw [ordinalOf, index, Nat.zero_mul, Nat.zero_add, mode.roundToInteger_of_lt_half negative above
    below]

theorem roundReal_of_small (mode : Mode) (negative : Bool) (positive : 0 < x)
    (small : x < 2 ^ (format.lowestPlace - 1)) :
    format.roundReal mode negative x = format.packNumber mode negative
      (mode.roundToInteger negative (1 / 4)) (inexactFlags true true) := by
  obtain ⟨-, tiny, above, below⟩ := format.scaledReal_of_small positive small
  have floor : ⌊format.scaledReal x⌋₊ = 0 := Nat.floor_eq_zero.mpr (by linarith)
  rw [roundReal, format.ordinalOf_of_small mode negative positive small, floor, Nat.cast_zero,
    decide_eq_true above.ne', decide_eq_true tiny]

/-- From the power of two after the largest finite value on every mode overflows. -/
theorem roundReal_of_large (mode : Mode) (negative : Bool) (large : 2 ^ (format.emax + 1) ≤ x) :
    format.roundReal mode negative x = ⟨format.overflowed mode negative,
      { overflow := true, inexact := true }⟩ := by
  have positive : 0 < x := lt_of_lt_of_le (by positivity) large
  have normal : ¬ x < 2 ^ format.emin := by
    have range := format.emin_le_emax
    exact not_lt.mpr ((zpow_le_zpow_right₀ one_le_two (by omega)).trans large)
  have reached := large
  rw [← magnitudeAt_infinityOrdinal, format.magnitudeAt_le_iff positive] at reached
  have kept := mode.le_roundToInteger negative (Nat.floor_le (format.scaledReal_nonneg positive))
  have beyond : format.infinityOrdinal ≤ format.ordinalOf mode negative x :=
    reached.trans (Nat.add_le_add_left kept _)
  rw [roundReal, packNumber, if_pos beyond, decide_eq_false normal, inexactFlags, Bool.and_false]

/-! ## Scaled values -/

/-- A magnitude is scaled alike by a power and by the power clamped to a limit, if the limit is as
wide as the range of the values. -/
theorem roundReal_clamped (mode : Mode) (negative : Bool) (least : 2 ^ format.lowestPlace ≤ x)
    (greatest : x < 2 ^ (format.emax + 1)) {limit : ℤ}
    (wide : 2 * format.emax + format.precision ≤ limit) (power : ℤ) :
    format.roundReal mode negative (x * 2 ^ max (-limit) (min limit power)) =
      format.roundReal mode negative (x * 2 ^ power) := by
  have width := format.fractionBits_add_one
  have range := format.one_le_emax
  have positive : 0 < x := lt_of_lt_of_le (by positivity) least
  rcases lt_trichotomy (max (-limit) (min limit power)) power with above | same | below
  · -- Both powers take the magnitude beyond the largest finite value.
    have large (power : ℤ) (far : limit ≤ power) : 2 ^ (format.emax + 1) ≤ x * 2 ^ power :=
      calc (2 : ℝ) ^ (format.emax + 1) ≤ 2 ^ (format.lowestPlace + power) :=
            zpow_le_zpow_right₀ one_le_two (by unfold lowestPlace emin; omega)
        _ = 2 ^ format.lowestPlace * 2 ^ power := zpow_add₀ two_ne_zero _ _
        _ ≤ x * 2 ^ power := mul_le_mul_of_nonneg_right least (by positivity)
    rw [format.roundReal_of_large mode negative (large _ (by omega)),
      format.roundReal_of_large mode negative (large power (by omega))]
  · rw [same]
  · -- Both powers take it below half the smallest magnitude.
    have small (power : ℤ) (far : power ≤ -limit) : x * 2 ^ power < 2 ^ (format.lowestPlace - 1) :=
      calc x * 2 ^ power < 2 ^ (format.emax + 1) * 2 ^ power :=
            mul_lt_mul_of_pos_right greatest (by positivity)
        _ = 2 ^ (format.emax + 1 + power) := (zpow_add₀ two_ne_zero _ _).symm
        _ ≤ 2 ^ (format.lowestPlace - 1) :=
            zpow_le_zpow_right₀ one_le_two (by unfold lowestPlace emin; omega)
    rw [format.roundReal_of_small mode negative (by positivity) (small _ (by omega)),
      format.roundReal_of_small mode negative (by positivity) (small power (by omega))]

/-! ## Exact magnitudes -/

variable {format} {significand : ℕ} {exponent : ℤ}

theorem roundExact_eq_roundReal (mode : Mode) (negative : Bool) (nonzero : significand ≠ 0) :
    format.roundExact mode negative significand exponent =
      format.roundReal mode negative (significand * 2 ^ exponent) := by
  have given : StandsFor significand exponent false (significand * 2 ^ exponent : ℝ) := rfl
  rw [roundExact, if_neg nonzero, roundAt_eq mode negative given nonzero (Or.inr rfl)]

theorem roundExact_of_small (negative : Bool) (nonzero : significand ≠ 0)
    (small : (significand * 2 ^ exponent : ℝ) < 2 ^ (format.lowestPlace - 1)) :
    (format.roundExact .nearestEven negative significand exponent).pattern =
      format.zero negative := by
  have some : (0 : ℝ) < significand := by exact_mod_cast Nat.pos_of_ne_zero nonzero
  have none : Mode.nearestEven.roundToInteger negative (1 / 4) = 0 := nearestEvenInteger_quarter
  rw [roundExact_eq_roundReal .nearestEven negative nonzero, roundReal_pattern,
    format.ordinalOf_of_small .nearestEven negative (by positivity) small, none, Nat.zero_min]
  rfl

/-- A magnitude with a number, scaled by a power of two. -/
theorem significandAt_mul_two_pow (ordinal : ℕ) (power : ℤ) :
    (format.significandAt ordinal * 2 ^ (format.placeAt ordinal + power) : ℝ) =
      format.magnitudeAt ordinal * 2 ^ power := by
  rw [zpow_add₀ two_ne_zero, ← mul_assoc]
  rfl

/-- Finite magnitudes that are not zero are between the ends of the range. -/
theorem magnitudeAt_bounds {ordinal : ℕ} (positive : 0 < ordinal)
    (finite : ordinal < format.infinityOrdinal) :
    2 ^ format.lowestPlace ≤ format.magnitudeAt ordinal ∧
      format.magnitudeAt ordinal < 2 ^ (format.emax + 1) := by
  rw [← magnitudeAt_one, ← magnitudeAt_infinityOrdinal]
  exact ⟨format.magnitudeAt_strictMono.monotone positive, format.magnitudeAt_strictMono finite⟩

/-- A finite value is scaled alike by a power and by the power clamped to a wide limit. -/
theorem roundExact_clamped (mode : Mode) (negative : Bool) {ordinal : ℕ} (positive : 0 < ordinal)
    (finite : ordinal < format.infinityOrdinal) {limit : ℤ}
    (wide : 2 * format.emax + format.precision ≤ limit) (power : ℤ) :
    format.roundExact mode negative (format.significandAt ordinal)
        (format.placeAt ordinal + max (-limit) (min limit power)) =
      format.roundExact mode negative (format.significandAt ordinal)
        (format.placeAt ordinal + power) := by
  have nonzero : format.significandAt ordinal ≠ 0 := significand_ne_zero positive rfl
  obtain ⟨least, greatest⟩ := magnitudeAt_bounds positive finite
  rw [roundExact_eq_roundReal mode negative nonzero, roundExact_eq_roundReal mode negative nonzero,
    significandAt_mul_two_pow, significandAt_mul_two_pow,
    format.roundReal_clamped mode negative least greatest wide]

end Format

end LibmAudit
