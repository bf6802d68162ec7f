/-
**The ends of the range.**

* `Format.magnitudeAt_ordinalOf_eq_iff`: the numbers that rounding leaves.
* `Format.ordinalOf_lt_of_tiny`: numbers below the normal ones do not overflow.
* `Format.infinityOrdinal_le_ordinalOf_iff`: a number overflows when rounding it without bounds on
  the exponent goes beyond the largest finite value.
-/

import LibmAudit.Proofs.Rounding.Neighbours

namespace LibmAudit.Format

attribute [local instance (high)] instPowNat

variable (format : Format) {x : ℝ}

/-! ## Numbers and magnitudes -/

/-- A number that is rounded to itself is a magnitude. -/
theorem magnitudeAt_ordinalOf_eq_iff (mode : Mode) (negative : Bool) (positive : 0 < x) :
    format.magnitudeAt (format.ordinalOf mode negative x) = x ↔
      format.scaledReal x = ⌊format.scaledReal x⌋₊ := by
  rw [← format.magnitudeAt_floorOrdinal_eq_iff positive]
  constructor
  · intro exact
    have below := (format.magnitudeAt_le_iff positive _).mp exact.le
    have := format.magnitudeAt_strictMono.monotone below
    exact le_antisymm (format.magnitudeAt_floorOrdinal_le positive) (exact.ge.trans this)
  · intro exact
    have integer := (format.magnitudeAt_floorOrdinal_eq_iff positive).mp exact
    have same : format.ordinalOf mode negative x = format.floorOrdinal x := by
      rw [ordinalOf, floorOrdinal, integer, Mode.roundToInteger_natCast, Nat.floor_natCast]
    rw [same, exact]

theorem ordinalOf_le_awayFromZero (mode : Mode) (negative : Bool) (positive : 0 < x) :
    format.ordinalOf mode negative x ≤ format.ordinalOf .awayFromZero negative x :=
  Nat.add_le_add_left
    (mode.roundToInteger_le negative (format.scaledReal_nonneg positive) (Nat.le_ceil _)) _

/-- Modes that do not overflow to an infinity round toward zero. -/
theorem ordinalOf_of_inward {mode : Mode} {negative : Bool}
    (inward : mode.overflowsToInfinity negative = false) :
    format.ordinalOf mode negative x = format.floorOrdinal x := by
  cases mode <;> cases negative <;> first | rfl | exact absurd inward (by decide)

theorem magnitudeAt_two_pow_fractionBits :
    format.magnitudeAt (2 ^ format.fractionBits) = 2 ^ format.emin := by
  have number := format.magnitudeAt_add (show 2 ^ format.fractionBits ≤ 2 ^ format.precision by
    rw [two_pow_precision]; omega) (Or.inl (rfl : 0 = 0))
  have place : format.emin = (format.fractionBits : ℤ) + (format.lowestPlace + (0 : ℕ)) := by
    unfold lowestPlace
    omega
  rw [Nat.zero_mul, Nat.zero_add] at number
  rw [number, place, zpow_add₀ two_ne_zero (format.fractionBits : ℤ), zpow_natCast, Nat.cast_pow,
    Nat.cast_ofNat]

theorem two_pow_fractionBits_lt_infinityOrdinal :
    2 ^ format.fractionBits < format.infinityOrdinal := by
  have mask := format.exponentMask_eq
  have range := format.one_le_emax
  have positive := Nat.two_pow_pos format.fractionBits
  have := Nat.mul_le_mul_right (2 ^ format.fractionBits) (show 2 ≤ format.exponentMask by omega)
  unfold infinityOrdinal
  omega

/-- Numbers below the normal ones do not overflow. -/
theorem ordinalOf_lt_of_tiny (mode : Mode) (negative : Bool) (positive : 0 < x)
    (tiny : x < 2 ^ format.emin) : format.ordinalOf mode negative x < format.infinityOrdinal := by
  rw [← magnitudeAt_two_pow_fractionBits] at tiny
  have bound := (format.le_magnitudeAt_iff negative positive _).mp tiny.le
  exact ((format.ordinalOf_le_awayFromZero mode negative positive).trans bound).trans_lt
    format.two_pow_fractionBits_lt_infinityOrdinal

/-! ## Overflow -/

/-- With unbounded exponents a number up to a power of two is not rounded beyond it. -/
theorem roundToPrecision_le (mode : Mode) (negative : Bool) (precision : ℕ) (positive : 0 < x) :
    mode.roundToPrecision negative precision x ≤ 2 ^ (Int.log 2 x + 1) := by
  have unit : (0 : ℝ) < 2 ^ (Int.log 2 x + 1 - precision) := by positivity
  have top : x < 2 ^ (Int.log 2 x + 1) := by exact_mod_cast Int.lt_zpow_succ_log_self one_lt_two x
  have whole : ((2 ^ precision : ℕ) : ℝ) * 2 ^ (Int.log 2 x + 1 - precision) =
      2 ^ (Int.log 2 x + 1) := by
    rw [Nat.cast_pow, Nat.cast_ofNat, ← zpow_natCast, ← zpow_add₀ two_ne_zero]
    congr 1
    omega
  have small : mode.roundToInteger negative (x / 2 ^ (Int.log 2 x + 1 - precision)) ≤
      2 ^ precision :=
    mode.roundToInteger_le negative (by positivity)
      ((div_le_iff₀ unit).mpr (top.le.trans_eq whole.symm))
  rw [Mode.roundToPrecision, ← whole]
  exact mul_le_mul_of_nonneg_right (by exact_mod_cast small) unit.le

/-- From the smallest normal magnitude on, the exponent has no lower bound to respect. -/
theorem roundToPrecision_eq (mode : Mode) (negative : Bool) (positive : 0 < x)
    (normal : 2 ^ format.emin ≤ x) :
    mode.roundToPrecision negative format.precision x =
      format.magnitudeAt (format.ordinalOf mode negative x) := by
  have leading : format.emin ≤ Int.log 2 x :=
    (Int.zpow_le_iff_le_log one_lt_two positive).mp (by exact_mod_cast normal)
  have place : Int.log 2 x + 1 - format.precision = format.placeOf x := by
    have := format.fractionBits_add_one
    unfold placeOf
    omega
  rw [format.magnitudeAt_ordinalOf _ _ positive, Mode.roundToPrecision, place, scaledReal]

theorem infinityOrdinal_le_ordinalOf_iff (mode : Mode) (negative : Bool) (positive : 0 < x) :
    format.infinityOrdinal ≤ format.ordinalOf mode negative x ↔
      2 ^ (format.emax + 1) ≤ mode.roundToPrecision negative format.precision x := by
  rcases lt_or_ge x (2 ^ format.emin) with tiny | normal
  · have leading : Int.log 2 x < format.emin :=
      (Int.lt_zpow_iff_log_lt one_lt_two positive).mp (by exact_mod_cast tiny)
    have range := format.emin_le_emax
    have bound := roundToPrecision_le mode negative format.precision positive
    have below : (2 : ℝ) ^ (Int.log 2 x + 1) < 2 ^ (format.emax + 1) :=
      zpow_lt_zpow_right₀ one_lt_two (by omega)
    exact iff_of_false (not_le.mpr (format.ordinalOf_lt_of_tiny mode negative positive tiny))
      (not_le.mpr (bound.trans_lt below))
  · rw [format.roundToPrecision_eq mode negative positive normal, ← magnitudeAt_infinityOrdinal,
      format.magnitudeAt_strictMono.le_iff_le]

end LibmAudit.Format
