/-
**Constants of the machine remainder.**

* `Format.roundExact_encodes`: a positive multiple that is a value is rounded to its pattern.
* `Native.integer_gives`, `half_gives`: the patterns of small powers of two and of one half.
* `Native.atLeast_eighthOfMax_iff`: the divisors that can be multiplied by eight.
* `Native.above_halvingLimit_iff`: the divisors that can be halved.
-/

import LibmAudit.Proofs.Remainder.Machine
import LibmAudit.Proofs.Rounding.Nearest

namespace LibmAudit

attribute [local instance (high)] instPowNat

namespace Format

variable (format : Format)

/-! ## Powers of two -/

theorem three_le_emax (three : 3 ≤ format.exponentBits) : 3 ≤ format.emax := by
  have power := Nat.pow_le_pow_right (show 0 < 2 by decide)
    (show 2 ≤ format.exponentBits - 1 by omega)
  unfold emax
  omega

/-- A power of two from the lowest place on, in units. -/
theorem two_pow_eq_units {exponent : ℤ} (above : format.lowestPlace ≤ exponent) :
    (2 : ℝ) ^ exponent =
      (2 ^ (exponent - format.lowestPlace).toNat : ℕ) * 2 ^ format.lowestPlace := by
  have split : exponent = ((exponent - format.lowestPlace).toNat : ℤ) + format.lowestPlace := by
    omega
  conv_lhs => rw [split, zpow_add₀ two_ne_zero, zpow_natCast]
  push_cast
  rfl

theorem unitsAt_infinityOrdinal :
    format.unitsAt format.infinityOrdinal =
      2 ^ (format.emax + 1 - format.lowestPlace).toNat := by
  have range := format.one_le_emax
  have top := format.magnitudeAt_infinityOrdinal
  rw [magnitudeAt_eq_unitsAt, format.two_pow_eq_units (show format.lowestPlace ≤ format.emax + 1 by
    unfold lowestPlace emin; omega),
    mul_left_inj' (by positivity)] at top
  exact_mod_cast top

variable {format}

/-- A positive multiple that is a value of the format is rounded to its pattern. -/
theorem roundExact_encodes {significand units : ℕ} {place : ℤ} (positive : 0 < units)
    (grid : format.OnGrid units) (small : units < format.unitsAt format.infinityOrdinal)
    (same : significand * 2 ^ place = (units : ℝ) * 2 ^ format.lowestPlace) :
    format.Encodes (format.roundExact .nearestEven false significand place).pattern units := by
  obtain ⟨ordinal, rfl⟩ := grid
  have number := format.unitsAt_pos_iff.mp positive
  have finite := format.unitsAt_strictMono.lt_iff_lt.mp small
  rw [← magnitudeAt_eq_unitsAt] at same
  rw [roundExact_magnitudeAt .nearestEven false number finite same, signBit,
    if_neg Bool.false_ne_true, Nat.zero_add]
  exact encodes_ofNat finite

theorem roundExact_two_pow_gives {significand : ℕ} {exponent place : ℤ}
    (above : format.lowestPlace ≤ exponent) (below : exponent ≤ format.emax)
    (same : (significand : ℝ) * 2 ^ place = 2 ^ exponent) :
    (Number.read format
      (format.roundExact .nearestEven false significand place).pattern).Gives (2 ^ exponent) := by
  have grid := format.onGrid_mul_two_pow Nat.one_le_two_pow
    (exponent - format.lowestPlace).toNat
  rw [one_mul] at grid
  have small : 2 ^ (exponent - format.lowestPlace).toNat <
      format.unitsAt format.infinityOrdinal := by
    rw [unitsAt_infinityOrdinal]
    exact Nat.pow_lt_pow_right (by decide) (by omega)
  have units := format.two_pow_eq_units above
  have gives := (roundExact_encodes (Nat.two_pow_pos _) grid small (same.trans units)).gives
  rw [units]
  exact_mod_cast gives

end Format

namespace Native

variable {format : Format}

/-! ## Factors -/

theorem integer_gives (three : 3 ≤ format.exponentBits) {power : ℕ} (small : power ≤ 3) :
    (Number.read format (integer format (2 ^ power))).Gives (2 ^ power) := by
  have range := format.three_le_emax three
  have cast : ((2 : ℝ) ^ power) = 2 ^ (power : ℤ) := (zpow_natCast _ _).symm
  rw [cast]
  unfold integer Format.roundInteger
  refine Format.roundExact_two_pow_gives (by unfold Format.lowestPlace Format.emin; omega)
    (by omega) ?_
  rw [zpow_zero, mul_one, zpow_natCast, Int.natAbs_natCast, Nat.cast_pow, Nat.cast_ofNat]

theorem half_gives (three : 3 ≤ format.exponentBits) :
    (Number.read format (half format)).Gives (1 / 2) := by
  have range := format.three_le_emax three
  have cast : (1 / 2 : ℝ) = 2 ^ (-1 : ℤ) := by rw [zpow_neg_one, one_div]
  rw [cast]
  refine Format.roundExact_two_pow_gives (by unfold Format.lowestPlace Format.emin; omega)
    (by omega) ?_
  rw [Nat.cast_one, one_mul]

/-! ## Limits -/

/-- The largest finite magnitude lies one unit in its last place below the next power of two. -/
theorem unitsAt_last (format : Format) : format.unitsAt (format.infinityOrdinal - 1) =
    (2 ^ format.precision - 1) * 2 ^ (format.emax - format.emin).toNat := by
  have width := format.fractionBits_add_one
  have range := format.emin_le_emax
  have next := format.magnitudeAt_succ (format.infinityOrdinal - 1)
  have place : (format.emax - format.emin).toNat + format.precision =
      (format.emax + 1 - format.lowestPlace).toNat := by
    unfold Format.lowestPlace
    omega
  have lower : (format.emax - format.fractionBits - format.lowestPlace).toNat =
      (format.emax - format.emin).toNat := by
    unfold Format.lowestPlace
    omega
  rw [Nat.sub_add_cancel format.infinityOrdinal_pos, format.placeAt_last,
    format.magnitudeAt_eq_unitsAt, format.magnitudeAt_eq_unitsAt,
    format.two_pow_eq_units (show format.lowestPlace ≤ format.emax - format.fractionBits by
      unfold Format.lowestPlace; omega), ← add_mul, mul_left_inj' (by positivity),
    format.unitsAt_infinityOrdinal, ← place, lower] at next
  have whole : 2 ^ ((format.emax - format.emin).toNat + format.precision) =
      format.unitsAt (format.infinityOrdinal - 1) + 2 ^ (format.emax - format.emin).toNat := by
    exact_mod_cast next
  rw [Nat.sub_mul, one_mul, ← pow_add, Nat.add_comm format.precision, whole,
    Nat.add_sub_cancel]

/-- Eight times a divisor is finite if the divisor is up to an eighth of the largest value. -/
theorem atLeast_eighthOfMax_iff (three : 3 ≤ format.exponentBits) {divisor : ℕ} {units : ℕ}
    (encodes : format.Encodes divisor units) :
    atLeast format (eighthOfMax format) divisor = true ↔
      8 * units < format.unitsAt format.infinityOrdinal := by
  have range := format.three_le_emax three
  have grid : format.OnGrid (8 * units) := by
    have eightfold := encodes.onGrid.mul_two_pow 3
    rwa [Int.natAbs_natCast, mul_comm] at eightfold
  obtain ⟨ordinal, same⟩ := grid
  have eighth : (format.emax - format.emin).toNat =
      (format.emax - format.emin - 3).toNat + 3 := by
    unfold Format.emin
    omega
  have last := unitsAt_last format
  rw [eighth, pow_add, ← mul_assoc] at last
  have positive : 0 < (2 ^ format.precision - 1) * 2 ^ (format.emax - format.emin - 3).toNat := by
    have := Nat.one_lt_two_pow (show format.precision ≠ 0 by
      have := format.two_le_precision; omega)
    exact Nat.mul_pos (by omega) (Nat.two_pow_pos _)
  have below := format.unitsAt_strictMono (Nat.sub_one_lt format.infinityOrdinal_pos.ne')
  have limit : format.Encodes (eighthOfMax format)
      ((2 ^ format.precision - 1) * 2 ^ (format.emax - format.emin - 3).toNat : ℕ) := by
    refine Format.roundExact_encodes positive
      (format.onGrid_mul_two_pow (Nat.sub_le _ _) _) (by omega) ?_
    have place : format.emax - format.fractionBits - 3 =
        ((format.emax - format.emin - 3).toNat : ℤ) + format.lowestPlace := by
      unfold Format.lowestPlace Format.emin
      omega
    rw [place, zpow_add₀ two_ne_zero, zpow_natCast]
    push_cast
    ring
  have number : ordinal ≤ format.infinityOrdinal - 1 ↔ 8 * units ≤
      (2 ^ format.precision - 1) * 2 ^ (format.emax - format.emin - 3).toNat * 2 ^ 3 := by
    rw [← format.unitsAt_strictMono.le_iff_le, same, last]
  rw [limit.atLeast_iff encodes, Nat.cast_le, ← same, format.unitsAt_strictMono.lt_iff_lt,
    ← Nat.le_sub_one_iff_lt format.infinityOrdinal_pos, number]
  omega

theorem unitsAt_two_pow_fractionBits (format : Format) :
    format.unitsAt (2 ^ format.fractionBits) = 2 ^ format.fractionBits := by
  simp [Format.unitsAt, Format.significandAt, Format.placeIndexAt]

/-- A divisor can be halved from twice the smallest normal value on. -/
theorem above_halvingLimit_iff (three : 3 ≤ format.exponentBits) {divisor : ℕ} {units : ℕ}
    (encodes : format.Encodes divisor units) :
    above format (halvingLimit format) divisor = true ↔
      units < 2 * 2 ^ format.fractionBits := by
  have least : format.Encodes (format.minNormal false) (2 ^ format.fractionBits : ℕ) := by
    have number := Format.encodes_ofNat format.two_pow_fractionBits_lt_infinityOrdinal
    rw [unitsAt_two_pow_fractionBits] at number
    simpa [Format.minNormal, Format.signBit] using number
  have grid : format.OnGrid (2 * 2 ^ format.fractionBits) := by
    have double := least.onGrid.mul_two_pow 1
    rwa [Int.natAbs_natCast, mul_comm, pow_one] at double
  have factor : (Number.read format (integer format 2)).Gives (2 ^ 1) :=
    @integer_gives format three 1 (by decide)
  have product : (2 : ℝ) ^ 1 * (((2 ^ format.fractionBits : ℕ) : ℤ) * 2 ^ format.lowestPlace) =
      (2 * 2 ^ format.fractionBits : ℕ) * 2 ^ format.lowestPlace := by
    push_cast
    ring
  obtain ⟨ordinal, same, pattern, -⟩ := Format.mul_clipped factor least.gives (by positivity)
    (by positivity) product grid
  have finite : ordinal < format.infinityOrdinal := by
    have range := format.three_le_emax three
    rw [← format.unitsAt_strictMono.lt_iff_lt, same, format.unitsAt_infinityOrdinal, ← pow_succ']
    refine Nat.pow_lt_pow_right (by decide) ?_
    unfold Format.lowestPlace Format.emin
    omega
  have limit := Format.encodes_ofNat finite
  rw [same] at limit
  rw [halvingLimit, pattern, min_eq_left finite.le, limit.above_iff encodes]
  omega

end Native

end LibmAudit
