/-
**Rounding quotients.**

The quotient of two integers is first cut to an integer of at least three bits more than the
precision, and the remainder leaves a sticky bit. Rounding what is left rounds the quotient itself.

* `Format.ratioSignificand`, `ratioExponent`, `ratioSticky`: what is left of a quotient.
* `Format.le_bitLength_ratioSignificand`: it has enough bits.
* `Format.standsFor_ratio`: it stands for the quotient.
* `Format.zero_isRounding`: a zero is rounded to itself.
* `Format.roundRatio_isRounding`: a quotient is rounded correctly.
* `Format.round_ratio`, `round_ratio_eq_ok`: what is left is rounded as any significand, and never
  refused for want of a bit below the last place.
-/

import LibmAudit.Proofs.Rounding.TwoStep

namespace LibmAudit.Format

attribute [local instance (high)] instPowNat

/-- The exponent of the last bit that is left of a quotient. -/
def ratioExponent (format : Format) (numerator denominator : ℕ) : ℤ :=
  (bitLength numerator : ℤ) - bitLength denominator - (format.precision + 3)

/-- The numerator in units of that bit, if these are small. -/
def ratioDividend (format : Format) (numerator denominator : ℕ) : ℕ :=
  numerator * 2 ^ (-format.ratioExponent numerator denominator).toNat

/-- The denominator in units of that bit, if these are large. -/
def ratioDivisor (format : Format) (numerator denominator : ℕ) : ℕ :=
  denominator * 2 ^ (format.ratioExponent numerator denominator).toNat

/-- The bits that are left of a quotient. -/
def ratioSignificand (format : Format) (numerator denominator : ℕ) : ℕ :=
  format.ratioDividend numerator denominator / format.ratioDivisor numerator denominator

/-- Whether something of a quotient is cut off. -/
def ratioSticky (format : Format) (numerator denominator : ℕ) : Bool :=
  format.ratioDividend numerator denominator % format.ratioDivisor numerator denominator != 0

variable (format : Format) {numerator denominator : ℕ}

theorem roundRatio_eq (mode : Mode) (negative : Bool) (nonzero : numerator ≠ 0) :
    format.roundRatio mode negative numerator denominator =
      format.roundAt mode negative (format.ratioSignificand numerator denominator)
        (format.ratioExponent numerator denominator)
        (format.ratioSticky numerator denominator) := by
  rw [roundRatio, if_neg nonzero]
  rfl

/-! ## What is left of a quotient -/

theorem ratioDivisor_pos (nonzero : denominator ≠ 0) :
    0 < format.ratioDivisor numerator denominator :=
  Nat.mul_pos (Nat.pos_of_ne_zero nonzero) (Nat.two_pow_pos _)

/-- The scaled operands have the quotient of the operands, in units of the last bit. -/
theorem ratioDividend_div (nonzero : denominator ≠ 0) :
    (format.ratioDividend numerator denominator : ℝ) / format.ratioDivisor numerator denominator *
      2 ^ format.ratioExponent numerator denominator = numerator / denominator := by
  have divisor : (denominator : ℝ) ≠ 0 := Nat.cast_ne_zero.mpr nonzero
  unfold ratioDividend ratioDivisor
  generalize format.ratioExponent numerator denominator = exponent
  have split : exponent = (exponent.toNat : ℤ) - ((-exponent).toNat : ℤ) := by omega
  nth_rewrite 3 [split]
  rw [zpow_sub₀ two_ne_zero, zpow_natCast, zpow_natCast]
  push_cast
  field_simp

/-- The quotient that is cut has at least three bits more than the precision. -/
theorem two_pow_le_ratioSignificand (nonzero : numerator ≠ 0) (nonzero' : denominator ≠ 0) :
    2 ^ (format.precision + 2) ≤ format.ratioSignificand numerator denominator := by
  rw [ratioSignificand, Nat.le_div_iff_mul_le (format.ratioDivisor_pos nonzero')]
  have lower := two_pow_le_of_bitLength nonzero
  have upper := (lt_two_pow_bitLength denominator).le
  have length := bitLength_pos nonzero
  have widths : format.precision + 2 +
      (bitLength denominator + (format.ratioExponent numerator denominator).toNat) =
        bitLength numerator - 1 + (-format.ratioExponent numerator denominator).toNat := by
    unfold ratioExponent
    omega
  calc 2 ^ (format.precision + 2) * format.ratioDivisor numerator denominator
      ≤ 2 ^ (format.precision + 2) * (2 ^ bitLength denominator *
          2 ^ (format.ratioExponent numerator denominator).toNat) :=
        Nat.mul_le_mul_left _ (Nat.mul_le_mul_right _ upper)
    _ = 2 ^ (bitLength numerator - 1) *
          2 ^ (-format.ratioExponent numerator denominator).toNat := by
        rw [← pow_add, ← pow_add, widths, pow_add]
    _ ≤ format.ratioDividend numerator denominator := Nat.mul_le_mul_right _ lower

theorem le_bitLength_ratioSignificand (nonzero : numerator ≠ 0) (nonzero' : denominator ≠ 0) :
    format.precision + 3 ≤ bitLength (format.ratioSignificand numerator denominator) :=
  lt_bitLength_iff.mpr (format.two_pow_le_ratioSignificand nonzero nonzero')

theorem ratioSignificand_ne_zero (nonzero : numerator ≠ 0) (nonzero' : denominator ≠ 0) :
    format.ratioSignificand numerator denominator ≠ 0 := by
  have := format.two_pow_le_ratioSignificand nonzero nonzero'
  have := Nat.two_pow_pos (format.precision + 2)
  omega

/-- So there is a bit below the last place of any result. -/
theorem room_of_ratio (nonzero : numerator ≠ 0) (nonzero' : denominator ≠ 0) :
    0 < format.placeFor (format.ratioSignificand numerator denominator)
        (format.ratioExponent numerator denominator) -
      format.ratioExponent numerator denominator := by
  have wide := format.le_bitLength_ratioSignificand nonzero nonzero'
  exact format.room_of_precision_lt _ (by omega)

/-- The quotient that is cut has at most four bits more than the precision. -/
theorem bitLength_ratioSignificand_le (nonzero : denominator ≠ 0) :
    bitLength (format.ratioSignificand numerator denominator) ≤ format.precision + 4 := by
  rw [bitLength_le_iff, ratioSignificand, Nat.div_lt_iff_lt_mul (format.ratioDivisor_pos nonzero)]
  have upper := lt_two_pow_bitLength numerator
  have lower := two_pow_le_of_bitLength nonzero
  have length := bitLength_pos nonzero
  have widths : bitLength numerator + (-format.ratioExponent numerator denominator).toNat =
      format.precision + 4 +
        (bitLength denominator - 1 + (format.ratioExponent numerator denominator).toNat) := by
    unfold ratioExponent
    omega
  calc format.ratioDividend numerator denominator
      < 2 ^ bitLength numerator * 2 ^ (-format.ratioExponent numerator denominator).toNat :=
        Nat.mul_lt_mul_of_pos_right upper (Nat.two_pow_pos _)
    _ = 2 ^ (format.precision + 4) * (2 ^ (bitLength denominator - 1) *
          2 ^ (format.ratioExponent numerator denominator).toNat) := by
        rw [← pow_add, ← pow_add, ← pow_add, widths]
    _ ≤ 2 ^ (format.precision + 4) * format.ratioDivisor numerator denominator :=
        Nat.mul_le_mul_left _ (Nat.mul_le_mul_right _ lower)

/-- No more bits are rounded off than the denominator has, and three. -/
theorem room_le_of_ratio (nonzero : numerator ≠ 0) (nonzero' : denominator ≠ 0) :
    (format.placeFor (format.ratioSignificand numerator denominator)
        (format.ratioExponent numerator denominator) -
      format.ratioExponent numerator denominator).toNat ≤ bitLength denominator + 3 := by
  have short : bitLength (format.ratioSignificand numerator denominator) ≤ format.precision + 4 :=
    format.bitLength_ratioSignificand_le nonzero'
  have length := bitLength_pos nonzero
  have length' := bitLength_pos nonzero'
  have width := format.fractionBits_add_one
  have range := format.one_le_emax
  unfold placeFor leadingExponent emin ratioExponent at *
  omega

/-- What is left stands for the quotient. -/
theorem standsFor_ratio (nonzero : denominator ≠ 0) :
    StandsFor (format.ratioSignificand numerator denominator)
      (format.ratioExponent numerator denominator) (format.ratioSticky numerator denominator)
      (numerator / denominator) := by
  have positive : 0 < format.ratioDivisor numerator denominator := format.ratioDivisor_pos nonzero
  have positive' : (0 : ℝ) < format.ratioDivisor numerator denominator := by exact_mod_cast positive
  have unit : (0 : ℝ) < 2 ^ format.ratioExponent numerator denominator := by positivity
  have split : (format.ratioDividend numerator denominator : ℝ) =
      format.ratioDivisor numerator denominator * format.ratioSignificand numerator denominator +
        (format.ratioDividend numerator denominator %
          format.ratioDivisor numerator denominator : ℕ) := by
    exact_mod_cast (Nat.div_add_mod _ _).symm
  have small := Nat.mod_lt (format.ratioDividend numerator denominator) positive
  rw [← format.ratioDividend_div nonzero, StandsFor]
  unfold ratioSticky
  generalize format.ratioDividend numerator denominator %
    format.ratioDivisor numerator denominator = remainder at split small
  -- What remains is less than the divisor, so it is a part of a unit, or nothing.
  by_cases exact : remainder = 0
  · rw [if_neg (by simp [exact]), split, exact, Nat.cast_zero, add_zero,
      mul_div_cancel_left₀ _ positive'.ne']
  · have rest : (0 : ℝ) < remainder := by exact_mod_cast Nat.pos_of_ne_zero exact
    have small' : (remainder : ℝ) < format.ratioDivisor numerator denominator := by
      exact_mod_cast small
    rw [if_pos (by simp [exact]), mul_lt_mul_iff_left₀ unit, mul_lt_mul_iff_left₀ unit,
      lt_div_iff₀ positive', div_lt_iff₀ positive', split]
    constructor <;> linarith

/-! ## Zeros -/

theorem overflowThreshold_pos : 0 < format.overflowThreshold := by
  have unit : (2 : ℝ) ^ (-format.precision : ℤ) ≤ 1 := zpow_le_one_of_nonpos₀ one_le_two (by omega)
  have top : (0 : ℝ) < 2 ^ format.emax := by positivity
  exact mul_pos top (by linarith)

theorem valueOf_zero (negative : Bool) : format.valueOf (format.zero negative : ℕ) = 0 := by
  have value := format.valueOf_signBit_add negative format.infinityOrdinal_pos.le
  rw [extendedAt_of_lt _ format.infinityOrdinal_pos, magnitudeAt_zero, EReal.coe_zero] at value
  exact value.trans (signed_zero negative)

theorem realOf_zero (negative : Bool) : format.realOf (format.zero negative : ℕ) = 0 := by
  have value := format.realOf_signBit_add negative format.infinityOrdinal_pos
  rw [magnitudeAt_zero] at value
  exact value.trans (signed_zero negative)

theorem zero_mem_values : (0 : EReal) ∈ format.values := by
  refine (format.mem_values_iff 0).mpr ⟨false, 0, format.infinityOrdinal_pos.le, ?_⟩
  rw [extendedAt_of_lt _ format.infinityOrdinal_pos, magnitudeAt_zero]
  rfl

/-- In each mode the value of a zero is what zero is rounded to. -/
theorem zero_roundsTo (mode : Mode) (negative : Bool) :
    format.RoundsTo mode negative 0 (format.zero negative) := by
  have up : format.RoundsUp 0 (format.zero negative) := by
    rw [RoundsUp, valueOf_zero]
    exact ⟨⟨format.zero_mem_values, le_rfl⟩, fun _ above => above.2⟩
  have down : format.RoundsDown 0 (format.zero negative) := by
    rw [RoundsDown, valueOf_zero]
    exact ⟨⟨format.zero_mem_values, le_rfl⟩, fun _ below => below.2⟩
  have nearest : ∀ wins, format.RoundsToNearest wins 0 (format.zero negative) := by
    intro wins
    rw [RoundsToNearest, abs_zero, if_neg (not_le.mpr format.overflowThreshold_pos), realOf_zero]
    refine ⟨format.isFinite_signBit_add negative format.infinityOrdinal_pos, fun other _ _ => ?_⟩
    rw [sub_zero, sub_zero, abs_zero]
    exact ⟨abs_nonneg _, fun tie distinct => absurd (abs_eq_zero.mp tie.symm).symm distinct⟩
  unfold RoundsTo
  rw [signed_zero]
  cases mode with
  | nearestEven => exact nearest _
  | nearestAway => exact nearest _
  | up => exact up
  | down => exact down
  | towardZero =>
    cases negative
    · exact down
    · exact up
  | awayFromZero =>
    cases negative
    · exact up
    · exact down

/-- Zero with either sign is rounded to itself. -/
theorem zero_isRounding (mode : Mode) (negative : Bool) :
    format.IsRounding mode negative 0 ⟨format.zero negative, .none⟩ := by
  have small := format.infinityOrdinal_pos.trans format.infinityOrdinal_lt
  refine ⟨format.signBit_add_lt negative small,
    format.isNaN_signBit_add negative format.infinityOrdinal_pos,
    format.isNegative_signBit_add negative small, format.zero_roundsTo mode negative, ?_, ?_, ?_,
    rfl, rfl, rfl⟩
  · rw [valueOf_zero, signed_zero]
    exact iff_of_false Bool.false_ne_true (by simp)
  · exact iff_of_false Bool.false_ne_true (by simp [Flags.none])
  · have integer := Mode.roundToInteger_natCast mode negative 0
    have top : (0 : ℝ) < 2 ^ (format.emax + 1) := by positivity
    rw [Nat.cast_zero] at integer
    rw [Mode.roundToPrecision, zero_div, integer, Nat.cast_zero, zero_mul]
    exact iff_of_false Bool.false_ne_true (not_le.mpr top)

/-! ## Rounding -/

/-- The quotient of two integers is rounded correctly. -/
theorem roundRatio_isRounding (mode : Mode) (negative : Bool) (nonzero : denominator ≠ 0) :
    format.IsRounding mode negative (numerator / denominator)
      (format.roundRatio mode negative numerator denominator) := by
  by_cases zero : numerator = 0
  · rw [zero, Nat.cast_zero, zero_div]
    exact format.zero_isRounding mode negative
  · have given : StandsFor (format.ratioSignificand numerator denominator) _ _ (_ / _) :=
      format.standsFor_ratio nonzero
    have some := format.ratioSignificand_ne_zero zero nonzero
    rw [format.roundRatio_eq mode negative zero, roundAt_eq mode negative given some
      (Or.inl (format.room_of_ratio zero nonzero))]
    exact format.roundReal_isRounding mode negative (given.pos some)

/-- What is left of a quotient is rounded as any significand is. It always has a bit below the last
place, so it is refused only if more bits are rounded off than can be stored. -/
theorem round_ratio (mode : Mode) (negative : Bool) (nonzero : numerator ≠ 0)
    (nonzero' : denominator ≠ 0) :
    format.round mode negative (format.ratioSignificand numerator denominator)
        (format.ratioExponent numerator denominator) (format.ratioSticky numerator denominator) =
      (checkLength (format.placeFor (format.ratioSignificand numerator denominator)
          (format.ratioExponent numerator denominator) -
        format.ratioExponent numerator denominator).toNat).map fun _ =>
          format.roundRatio mode negative numerator denominator := by
  rw [round, if_neg (format.ratioSignificand_ne_zero nonzero nonzero'),
    if_pos (format.room_of_ratio nonzero nonzero'), format.roundRatio_eq mode negative nonzero]

/-- So what is left of a quotient is not refused, unless the denominator cannot be stored. -/
theorem round_ratio_eq_ok (mode : Mode) (negative : Bool) (nonzero : numerator ≠ 0)
    (nonzero' : denominator ≠ 0) (short : bitLength denominator + 3 < storageLimit) :
    format.round mode negative (format.ratioSignificand numerator denominator)
        (format.ratioExponent numerator denominator) (format.ratioSticky numerator denominator) =
      .ok (format.roundRatio mode negative numerator denominator) := by
  have room := format.room_le_of_ratio nonzero nonzero'
  rw [format.round_ratio mode negative nonzero nonzero', checkLength_eq_ok (by omega)]
  rfl

end LibmAudit.Format
