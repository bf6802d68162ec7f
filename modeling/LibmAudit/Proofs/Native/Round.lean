/-
**Rounding to integers by machine operations.**

The native library cuts a value to its integer part, compares what is left with one half, and adds
one with the sign of the value. None of the steps is inexact, so that halves go away from zero as in
the reference library, and the sign of the value stays when the result is zero.

* `Format.roundExact_signBit_add`: short significands are values of the format.
* `Native.sub_of_gives`: exact differences.
* `Native.sub_self`, `sub_whole`: what is left of a value that is whole, and of another one.
* `Native.round_outputs`: the machine operations round as the reference library does.
-/

import LibmAudit.Native.Library
import LibmAudit.Proofs.Multiprecision.Exact
import LibmAudit.Proofs.Reference.Parts
import LibmAudit.Proofs.Rounding.Saturation

namespace LibmAudit

attribute [local instance (high)] instPowNat

variable {format : Format}

/-! ## Short significands -/

/-- A significand that is short enough for its place is a value of the format. -/
theorem Format.roundExact_signBit_add (negative : Bool) {significand : ℕ} {place : ℤ}
    (short : significand ≤ 2 ^ format.precision) (above : format.lowestPlace ≤ place)
    (below : (significand * 2 ^ place : ℝ) < 2 ^ (format.emax + 1)) :
    ∃ ordinal < format.infinityOrdinal,
      (format.roundExact .nearestEven negative significand place).pattern =
        format.signBit negative + ordinal ∧
      format.magnitudeAt ordinal = significand * 2 ^ place := by
  obtain ⟨ordinal, units⟩ := format.onGrid_mul_two_pow short (place - format.lowestPlace).toNat
  have magnitude : format.magnitudeAt ordinal = significand * 2 ^ place := by
    rw [format.magnitudeAt_eq_unitsAt, units, format.two_pow_eq_units above]
    push_cast
    ring
  have finite : ordinal < format.infinityOrdinal := by
    rwa [← magnitude, ← format.magnitudeAt_infinityOrdinal,
      format.magnitudeAt_strictMono.lt_iff_lt] at below
  refine ⟨ordinal, finite, ?_, magnitude⟩
  rcases Nat.eq_zero_or_pos ordinal with rfl | positive
  · rw [format.magnitudeAt_zero, eq_comm, mul_eq_zero,
      or_iff_left (by positivity : (2 : ℝ) ^ place ≠ 0), Nat.cast_eq_zero] at magnitude
    rw [Format.roundExact, if_pos magnitude]
    rfl
  · rw [Format.roundExact_magnitudeAt .nearestEven negative positive finite magnitude.symm]

namespace Native

/-! ## Constants -/

theorem two_pow_ordinal {exponent : ℤ} (above : format.lowestPlace ≤ exponent)
    (below : exponent ≤ format.emax) :
    ∃ ordinal < format.infinityOrdinal,
      (format.roundExact .nearestEven false 1 exponent).pattern = ordinal ∧
      format.magnitudeAt ordinal = 2 ^ exponent := by
  have small : ((1 : ℕ) * 2 ^ exponent : ℝ) < 2 ^ (format.emax + 1) := by
    rw [Nat.cast_one, one_mul]
    exact zpow_lt_zpow_right₀ one_lt_two (by omega)
  obtain ⟨ordinal, finite, pattern, magnitude⟩ :=
    Format.roundExact_signBit_add false Nat.one_le_two_pow above small
  rw [Format.signBit, if_neg Bool.false_ne_true, Nat.zero_add] at pattern
  rw [Nat.cast_one, one_mul] at magnitude
  exact ⟨ordinal, finite, pattern, magnitude⟩

theorem lowestPlace_lt (format : Format) : format.lowestPlace < 0 := by
  have range := format.one_le_emax
  have width := format.fractionBits_pos
  unfold Format.lowestPlace Format.emin
  omega

theorem atLeast_half_iff {ordinal : ℕ} (finite : ordinal < format.infinityOrdinal) :
    atLeast format ordinal (half format) = true ↔ 1 / 2 ≤ format.magnitudeAt ordinal := by
  have range := format.one_le_emax
  have lowest := lowestPlace_lt format
  obtain ⟨number, finite', pattern, magnitude⟩ :=
    @two_pow_ordinal format (-1) (by omega) (by omega)
  rw [zpow_neg_one, ← one_div] at magnitude
  rw [half, pattern, (Format.encodes_ofNat finite).atLeast_iff (Format.encodes_ofNat finite'),
    Nat.cast_le, format.unitsAt_strictMono.le_iff_le, ← magnitude,
    format.magnitudeAt_strictMono.le_iff_le]

/-- One with a sign. -/
theorem withSign_one_gives (negative : Bool) :
    (Number.read format (withSign format negative (integer format 1))).Gives
      (signed negative 1) := by
  have range := format.one_le_emax
  obtain ⟨ordinal, finite, pattern, magnitude⟩ :=
    @two_pow_ordinal format 0 (lowestPlace_lt format).le (by omega)
  have small := finite.trans format.infinityOrdinal_lt
  have constant : withSign format negative (integer format 1) =
      format.signBit negative + ordinal := by
    change format.magnitudeField (format.roundExact .nearestEven false 1 0).pattern +
      format.signBit negative = _
    have number := format.magnitudeField_signBit_add false small
    rw [Format.signBit, if_neg Bool.false_ne_true, Nat.zero_add] at number
    rw [pattern, number, Nat.add_comm]
  rw [zpow_zero] at magnitude
  rw [constant, ← magnitude]
  exact Number.gives_signBit_add negative finite

/-! ## Differences -/

/-- A difference that is a magnitude of the format is exact, up to the sign of a zero. -/
theorem sub_of_gives {first second : ℕ} {y z : ℝ} (gives : (Number.read format first).Gives y)
    (gives' : (Number.read format second).Gives z) (negative : Bool) {ordinal : ℕ}
    (finite : ordinal < format.infinityOrdinal)
    (difference : y + -z = signed negative (format.magnitudeAt ordinal)) :
    ∃ sign, (sub format first second).pattern = format.signBit sign + ordinal := by
  unfold sub Number.sub
  rcases gives.add gives'.neg with ⟨nonzero, sum⟩ | ⟨none, outcome⟩
  · rw [difference] at nonzero sum
    have some : 0 < ordinal := by
      refine Nat.pos_of_ne_zero fun none => nonzero ?_
      rw [none, format.magnitudeAt_zero, signed_zero]
    obtain ⟨bits, -⟩ := ofOutcome_of_hasValue some sum
    rw [min_eq_left finite.le] at bits
    exact ⟨negative, bits⟩
  · rw [difference] at none
    have zero : ordinal = 0 := by
      have magnitude := abs_signed negative (format.magnitudeAt ordinal)
      rw [none, abs_zero, eq_comm, abs_eq_zero, ← format.magnitudeAt_zero] at magnitude
      exact format.magnitudeAt_strictMono.injective magnitude
    subst zero
    rcases outcome with cancelled | ⟨sign, -, -, left⟩
    · rw [cancelled]
      exact ⟨false, rfl⟩
    · rw [left]
      exact ⟨sign, rfl⟩

/-! ## Values that are whole -/

theorem sub_self (format : Format) (pattern : ℕ) :
    (sub format pattern pattern).pattern = format.quietNaN false ∨
      (sub format pattern pattern).pattern = format.zero false := by
  unfold sub Number.sub
  cases Number.read format pattern with
  | nan => exact Or.inl rfl
  | infinity negative => cases negative <;> exact Or.inl rfl
  | zero negative => cases negative <;> exact Or.inr rfl
  | finite value =>
    rcases value.add_eq value.neg with ⟨-, cancelled⟩ | ⟨nonzero, -⟩
    · refine Or.inr ?_
      change (ofOutcome format (value.add value.neg)).pattern = _
      rw [cancelled]
      rfl
    · rw [value.neg_toReal, add_neg_cancel] at nonzero
      exact absurd rfl nonzero

/-- Nothing is left of a value that is its own integer part. -/
theorem round_of_whole {pattern : ℕ}
    (whole : (Reference.integral format .towardZero pattern).1 = pattern) :
    (round format pattern).outputs = [.float pattern] := by
  have first := format.infinityOrdinal_pos
  have isZero := (format.isZero_iff _).mp (format.isZero_zero false)
  have zero : atLeast format (0 : ℕ) (half format) = false := by
    rw [Bool.eq_false_iff, Ne, atLeast_half_iff first, format.magnitudeAt_zero]
    norm_num
  unfold round
  dsimp only
  rw [whole]
  rcases sub_self format pattern with nan | none
  · rw [nan, if_pos (format.isNaN_quietNaN false)]
    rfl
  · rw [none, magnitude, isZero, zero, if_neg Bool.false_ne_true]
    split_ifs <;> rfl

/-! ## Values with a fraction -/

/-- How many bits of a significand are below the point. -/
def places (format : Format) (ordinal : ℕ) : ℕ := (-format.placeAt ordinal).toNat

/-- The integer part of a magnitude. -/
def wholeAt (format : Format) (ordinal : ℕ) : ℕ :=
  format.significandAt ordinal / 2 ^ places format ordinal

/-- The bits of a significand below the point. -/
def restAt (format : Format) (ordinal : ℕ) : ℕ :=
  format.significandAt ordinal % 2 ^ places format ordinal

section Fraction

variable (negative : Bool) {ordinal : ℕ} (positive : 0 < ordinal)
  (finite : ordinal < format.infinityOrdinal) (fraction : format.placeAt ordinal < 0)

include fraction

theorem two_pow_places : (2 : ℝ) ^ format.placeAt ordinal * 2 ^ places format ordinal = 1 := by
  have place : format.placeAt ordinal + (places format ordinal : ℤ) = 0 := by
    unfold places
    omega
  rw [← zpow_natCast, ← zpow_add₀ two_ne_zero, place, zpow_zero]

theorem wholeAt_add_restAt : format.magnitudeAt ordinal =
    wholeAt format ordinal + restAt format ordinal * 2 ^ format.placeAt ordinal := by
  have parts : format.significandAt ordinal =
      wholeAt format ordinal * 2 ^ places format ordinal + restAt format ordinal :=
    (Nat.div_add_mod' _ _).symm
  rw [Format.magnitudeAt, parts]
  push_cast
  rw [add_mul, mul_assoc, mul_comm (_ ^ places _ _), two_pow_places fraction, mul_one]

theorem half_le_rest_iff :
    1 / 2 ≤ (restAt format ordinal * 2 ^ format.placeAt ordinal : ℝ) ↔
      2 ^ (places format ordinal - 1) ≤ restAt format ordinal := by
  have some : 0 < places format ordinal := by
    unfold places
    omega
  have double : (2 : ℝ) ^ places format ordinal = 2 ^ (places format ordinal - 1) * 2 := by
    rw [← pow_succ, Nat.sub_add_cancel some]
  have unit := two_pow_places fraction
  have point : (0 : ℝ) < 2 ^ format.placeAt ordinal := by positivity
  have half : (1 / 2 : ℝ) =
      (2 ^ (places format ordinal - 1) : ℕ) * 2 ^ format.placeAt ordinal := by
    rw [double] at unit
    push_cast
    linarith
  rw [half, mul_le_mul_iff_left₀ point, Nat.cast_le]

include finite

/-- The integer part is a value. -/
theorem whole_signBit_add : ∃ number < format.infinityOrdinal,
    (format.roundExact .nearestEven negative (wholeAt format ordinal) 0).pattern =
      format.signBit negative + number ∧
    format.magnitudeAt number = wholeAt format ordinal := by
  have parts := wholeAt_add_restAt fraction
  have rest : (0 : ℝ) ≤ restAt format ordinal * 2 ^ format.placeAt ordinal := by positivity
  have below := format.magnitudeAt_strictMono finite
  rw [format.magnitudeAt_infinityOrdinal] at below
  obtain ⟨number, finite', pattern, magnitude⟩ := Format.roundExact_signBit_add negative
    ((Nat.div_le_self _ _).trans (format.significandAt_lt ordinal).le) (lowestPlace_lt format).le
    (show (wholeAt format ordinal * 2 ^ (0 : ℤ) : ℝ) < 2 ^ (format.emax + 1) by
      rw [zpow_zero, mul_one]
      linarith)
  rw [zpow_zero, mul_one] at magnitude
  exact ⟨number, finite', pattern, magnitude⟩

/-- What is left after the integer part is a value. -/
theorem rest_signBit_add : ∃ number < format.infinityOrdinal,
    (format.roundExact .nearestEven negative (restAt format ordinal)
      (format.placeAt ordinal)).pattern = format.signBit negative + number ∧
    format.magnitudeAt number = restAt format ordinal * 2 ^ format.placeAt ordinal := by
  have parts := wholeAt_add_restAt fraction
  have whole : (0 : ℝ) ≤ wholeAt format ordinal := Nat.cast_nonneg _
  have below := format.magnitudeAt_strictMono finite
  rw [format.magnitudeAt_infinityOrdinal] at below
  exact Format.roundExact_signBit_add negative
    ((Nat.mod_le _ _).trans (format.significandAt_lt ordinal).le)
    (format.lowestPlace_le_placeAt ordinal)
    (show (restAt format ordinal * 2 ^ format.placeAt ordinal : ℝ) < 2 ^ (format.emax + 1) by
      linarith)

/-- One more than the integer part, with the sign of the value. -/
theorem add_one_whole {whole : ℕ} (same : whole =
      (format.roundExact .nearestEven negative (wholeAt format ordinal) 0).pattern) :
    (add format whole (withSign format negative (integer format 1))).pattern =
      (format.roundExact .nearestEven negative (wholeAt format ordinal + 1) 0).pattern := by
  obtain ⟨number, finite', pattern, value⟩ := whole_signBit_add negative finite fraction
  have sum : signed negative (format.magnitudeAt number) + signed negative 1 =
      signed negative ((wholeAt format ordinal + 1 : ℕ) * 2 ^ (0 : ℤ) : ℝ) := by
    rw [value, zpow_zero, mul_one, Nat.cast_add_one, signed_add]
  have positive' : (0 : ℝ) < (wholeAt format ordinal + 1 : ℕ) * 2 ^ (0 : ℤ) := by positivity
  have gives := Number.gives_signBit_add negative finite'
  rw [Format.roundExact_eq_roundReal .nearestEven negative (Nat.succ_ne_zero _), same, pattern, add]
  rcases gives.add (withSign_one_gives negative) with ⟨-, exact⟩ | ⟨none, -⟩
  · rw [sum] at exact
    exact ofOutcome_eq_roundReal positive' exact
  · rw [sum] at none
    have magnitude := abs_signed negative ((wholeAt format ordinal + 1 : ℕ) * 2 ^ (0 : ℤ) : ℝ)
    rw [none, abs_zero, abs_of_pos positive'] at magnitude
    exact absurd magnitude positive'.ne

/-- The difference from the integer part is exact. -/
theorem sub_whole {whole : ℕ} (same : whole =
      (format.roundExact .nearestEven negative (wholeAt format ordinal) 0).pattern) :
    ∃ number < format.infinityOrdinal,
      format.magnitudeAt number = restAt format ordinal * 2 ^ format.placeAt ordinal ∧
      format.isNaN (sub format (format.signBit negative + ordinal) whole).pattern = false ∧
      magnitude format (sub format (format.signBit negative + ordinal) whole).pattern = number := by
  obtain ⟨number, finite', -, rest⟩ := rest_signBit_add negative finite fraction
  obtain ⟨integer, finite'', pattern, value⟩ := whole_signBit_add negative finite fraction
  have small := finite'.trans format.infinityOrdinal_lt
  have parts := wholeAt_add_restAt fraction
  rw [← value, ← rest] at parts
  have difference : signed negative (format.magnitudeAt ordinal) +
      -signed negative (format.magnitudeAt integer) =
        signed negative (format.magnitudeAt number) := by
    rw [parts, ← sub_eq_add_neg, signed_sub, add_sub_cancel_left]
  obtain ⟨sign, bits⟩ := sub_of_gives (Number.gives_signBit_add negative finite)
    (Number.gives_signBit_add negative finite'') negative finite' difference
  rw [← pattern, ← same] at bits
  rw [bits]
  exact ⟨number, finite', rest, format.isNaN_signBit_add sign finite',
    format.magnitudeField_signBit_add sign small⟩

include positive

/-- The reference library keeps the integer part or takes the next integer. -/
theorem integral_of_fraction (mode : Mode) :
    (Reference.integral format mode (format.signBit negative + ordinal)).1 =
      (format.roundExact .nearestEven negative
        (if restAt format ordinal != 0 && mode.roundsAway negative (wholeAt format ordinal)
          (restAt format ordinal) (2 ^ (places format ordinal - 1) : ℕ) false then
            wholeAt format ordinal + 1 else wholeAt format ordinal) 0).pattern := by
  unfold Reference.integral
  rw [Reference.parts?_signBit_add negative positive finite]
  dsimp only
  rw [if_neg (not_le.mpr fraction)]
  rfl

/-- A value with a fraction is rounded to the nearest integer, halves away from zero. -/
theorem round_of_fraction :
    (round format (format.signBit negative + ordinal)).outputs =
      (Reference.toIntegral .nearestAway format (format.signBit negative + ordinal)).outputs := by
  have sign := format.isNegative_signBit_add negative (finite.trans format.infinityOrdinal_lt)
  have cut : (Reference.integral format .towardZero (format.signBit negative + ordinal)).1 =
      (format.roundExact .nearestEven negative (wholeAt format ordinal) 0).pattern := by
    rw [integral_of_fraction negative positive finite fraction, Mode.roundsAway, Bool.and_false,
      if_neg Bool.false_ne_true]
  have nearest := integral_of_fraction negative positive finite fraction .nearestAway
  obtain ⟨number, finite', rest, isNaN, difference⟩ := sub_whole negative finite fraction cut
  have next := add_one_whole negative finite fraction cut
  have isHalf := atLeast_half_iff finite'
  rw [rest, half_le_rest_iff fraction] at isHalf
  unfold round Reference.toIntegral
  dsimp only
  rw [isNaN, if_neg Bool.false_ne_true, difference, sign, nearest]
  by_cases up : 2 ^ (places format ordinal - 1) ≤ restAt format ordinal
  · have some : restAt format ordinal ≠ 0 := (lt_of_lt_of_le (Nat.two_pow_pos _) up).ne'
    have away : Mode.nearestAway.roundsAway negative (wholeAt format ordinal)
        (restAt format ordinal) (2 ^ (places format ordinal - 1) : ℕ) false = true :=
      decide_eq_true (by exact_mod_cast up)
    rw [if_pos (isHalf.mpr up), away, bne_iff_ne.mpr some, Bool.and_self, if_pos rfl, ← next]
    rfl
  · have stays : Mode.nearestAway.roundsAway negative (wholeAt format ordinal)
        (restAt format ordinal) (2 ^ (places format ordinal - 1) : ℕ) false = false :=
      decide_eq_false (by exact_mod_cast up)
    rw [if_neg (mt isHalf.mp up), stays, Bool.and_false, if_neg Bool.false_ne_true, cut]
    rfl

end Fraction

/-! ## Rounding -/

/-- The machine operations round to the nearest integer, halves away from zero. -/
theorem round_outputs {pattern : ℕ} (fits : pattern < 2 ^ format.totalBits) :
    (round format pattern).outputs =
      (Reference.toIntegral .nearestAway format pattern).outputs := by
  have unchanged (same : ∀ mode, (Reference.integral format mode pattern).1 = pattern) :
      (round format pattern).outputs =
        (Reference.toIntegral .nearestAway format pattern).outputs := by
    rw [round_of_whole (same .towardZero), Reference.toIntegral, same]
    rfl
  cases Reference.class_of_fits fits with
  | nan _ _ parts | infinite _ _ _ _ parts | zero _ _ _ _ _ parts =>
    exact unchanged fun mode => by simp [Reference.integral, parts]
  | finite negative ordinal positive finite same _ _ _ parts =>
    by_cases whole : 0 ≤ format.placeAt ordinal
    · exact unchanged fun mode => by simp [Reference.integral, parts, whole]
    · rw [same]
      exact round_of_fraction negative positive finite (not_le.mp whole)

end Native

end LibmAudit
