/-
**Results that can always be rounded.**

A number that is known by its enclosures is cut with an error. A cut to zero could not be rounded
into a format; where the enclosures have no very small places, there is none.

* `Number.toPattern_completes`: cut numbers above the end of the exponent range are rounded into a
  format.
* `Operation.cos_completes`: where the sine of a pattern is rounded, the cosine is as well.
* `Operation.lgamma_completes`: the logarithm of the gamma function of a pattern is always rounded.
* `Carrier.precise`: the precision of a machine type is small enough for both.
-/

import LibmAudit.Proofs.Multiprecision.Modes
import LibmAudit.Proofs.Multiprecision.Reading

namespace LibmAudit

attribute [local instance (high)] instPowNat

/-! ## Cut digits -/

namespace Truncation

theorem bitLength_cutTo_le (precision : ℕ) (negative : Bool) (truncation : Truncation) :
    bitLength (truncation.cutTo precision negative).significand ≤ precision := by
  rw [bitLength_le_iff, cutTo]
  dsimp only
  rw [Nat.div_lt_iff_lt_mul (Nat.two_pow_pos _), ← pow_add, ← bitLength_le_iff]
  omega

theorem cutTo_ne_zero {precision : ℕ} (positive : 0 < precision) (negative : Bool)
    {truncation : Truncation} (nonzero : truncation.significand ≠ 0) :
    (truncation.cutTo precision negative).significand ≠ 0 := by
  have length := bitLength_pos nonzero
  refine (Nat.div_pos ?_ (Nat.two_pow_pos _)).ne'
  rw [← lt_bitLength_iff]
  omega

end Truncation

/-! ## Rounding into a format -/

/-- A cut number above the end of the exponent range. -/
structure IsCutNumber (precision : ℕ) (value : Dyadic) : Prop where
  nonzero : value.significand ≠ 0
  short : bitLength value.significand ≤ precision
  inRange : -exponentLimit ≤ value.top

theorem isCutNumber_greatest {precision : ℕ} (positive : 0 < precision) (negative : Bool) :
    IsCutNumber precision ⟨negative, 2 ^ precision - 1, exponentLimit - precision⟩ := by
  have whole : 2 ^ precision = 2 ^ (precision - 1) + 2 ^ (precision - 1) := by
    rw [← mul_two, ← pow_succ, Nat.sub_add_cancel positive]
  have half := Nat.two_pow_pos (precision - 1)
  have least : precision - 1 < bitLength (2 ^ precision - 1) :=
    lt_bitLength_iff.mpr (by omega)
  refine ⟨by dsimp only; omega, ?_, ?_⟩
  · exact bitLength_le_iff.mpr (Nat.sub_lt (Nat.two_pow_pos _) Nat.one_pos)
  · unfold Dyadic.top exponentLimit
    dsimp only
    omega

namespace Outcome

/-- Leading digits above the end of the exponent range are cut to a number. -/
theorem roundTruncation_above {precision : ℕ} (positive : 0 < precision) (negative : Bool)
    {truncation : Truncation} (nonzero : truncation.significand ≠ 0)
    (above : -exponentLimit ≤ truncation.exponent) :
    ∃ value, (roundTruncation precision .towardZero negative truncation).number =
      .finite value ∧ IsCutNumber precision value := by
  have top := truncation.exponent_le_top_cutTo precision negative
  rw [roundTruncation_towardZero]
  by_cases beyond : exponentLimit < (truncation.cutTo precision negative).top
  · rw [if_pos beyond]
    exact ⟨_, rfl, isCutNumber_greatest positive negative⟩
  · rw [if_neg beyond, if_neg (by omega)]
    exact ⟨_, rfl, Truncation.cutTo_ne_zero positive negative nonzero,
      truncation.bitLength_cutTo_le precision negative, above.trans top⟩

/-- A number in enclosures that have no places below the end of the exponent range. -/
theorem round_enclosed_above {precision : ℕ} (positive : 0 < precision) (negative : Bool)
    {enclose : ℕ → Enclosure} (above : ∀ further ≤ 2 ^ 14 * (precision + 2 + 16),
      -exponentLimit ≤ (enclose further).exponent) :
    ∃ value, ((enclosed negative enclose).round precision .towardZero).number = .finite value ∧
      IsCutNumber precision value := by
  obtain ⟨further, bound, same⟩ := refine_eq enclose (precision + 2)
  have place := above further bound
  rw [enclosed, round, same]
  refine roundTruncation_above positive negative ?_ ?_
  · exact (Nat.lt_of_lt_of_le Nat.one_pos (Nat.le_max_left 1 _)).ne'
  · rw [Enclosure.truncateLow]
    dsimp only
    omega

end Outcome

theorem le_exponent_cos (value : Dyadic) (precision : ℕ) :
    -(precision + 8 : ℤ) ≤ (Trigonometric.cos value precision).exponent := by
  unfold Trigonometric.cos
  split_ifs
  · change -(precision + 8 : ℤ) ≤ 0 - precision
    omega
  · change -(precision + 8 : ℤ) ≤ -((precision + 8 : ℕ) : ℤ)
    omega

theorem le_exponent_lgamma (argument : Dyadic) (precision : ℕ) :
    -(precision + 16 + bitLength argument.significand : ℤ) ≤
      (Gamma.lgamma argument precision).exponent := by
  unfold Gamma.lgamma
  split
  · next vast =>
    rw [Gamma.isVast, decide_eq_true_eq, Dyadic.top] at vast
    change _ ≤ argument.exponent - precision
    omega
  · change _ ≤ -((precision + 16 : ℕ) : ℤ)
    omega

/-- A cut number is rounded into the format, with a sticky bit or without one. -/
theorem Number.toPattern_completes (format : Format) (mode : Mode) {value : Dyadic}
    (cut : IsCutNumber (format.precision + 2) value) (sticky : Bool) (precision : ℕ) :
    ∃ rounded, toPattern format mode (.finite value) sticky precision = .ok rounded := by
  have nonzero : value.reduced.significand ≠ 0 := by
    rw [Dyadic.significand_ne_zero_iff, Dyadic.reduced_magnitude, ← Dyadic.significand_ne_zero_iff]
    exact cut.nonzero
  have wide : (padded format value).significand ≠ 0 := by
    rw [padded, Dyadic.significand_ne_zero_iff, widened_magnitude,
      ← Dyadic.significand_ne_zero_iff]
    exact nonzero
  have least : bitLength value.reduced.significand ≤ format.precision + 2 := by
    rw [bitLength_le_iff]
    exact (Dyadic.significand_le_of_odd (Dyadic.reduced_odd cut.nonzero)
      value.reduced_magnitude).trans_lt (bitLength_le_iff.mp cut.short)
  have length : bitLength (padded format value).significand = format.precision + 2 :=
    (bitLength_widened format nonzero).trans (max_eq_right least)
  have top : (padded format value).exponent + bitLength (padded format value).significand =
      value.top := (widened_top format nonzero).trans (Dyadic.reduced_top cut.nonzero)
  have room := format.room_of_precision_lt (padded format value).exponent
    (show format.precision < bitLength (padded format value).significand by omega)
  obtain ⟨other, given⟩ := Format.exists_standsFor (padded format value).significand
    (padded format value).exponent sticky
  refine ⟨_, Format.round_eq mode _ given wide (Or.inl room) ?_⟩
  have width := format.fractionBits_add_one
  have range := format.one_le_emax
  have inRange := cut.inRange
  have limit := storageLimit_eq
  unfold exponentLimit at inRange
  unfold Format.placeFor Format.leadingExponent Format.emin
  omega

namespace Operation

variable {format : Format}

theorem finish_completes (mode : Mode) {result : Evaluation} {value : Dyadic}
    (finite : result.number = .finite value) (cut : IsCutNumber (format.precision + 2) value) :
    ∃ rounded, finish format mode result = .ok rounded := by
  obtain ⟨rounded, given⟩ := Number.toPattern_completes format mode cut (result.ternary != 0)
    (format.precision + 2)
  rw [finish_eq_map, finite, given]
  exact ⟨_, rfl⟩

/-- Where the sine of a pattern is rounded, the cosine is as well. -/
theorem cos_completes (precise : format.precision < 2 ^ 15) {mode : Mode} {pattern : ℕ}
    {sine : Rounded} (first : sin.evaluateInto format mode false [pattern] = .ok sine) :
    ∃ cosine, cos.evaluateInto format mode false [pattern] = .ok cosine := by
  rw [evaluateInto_eq] at first ⊢
  obtain ⟨result, evaluated, -⟩ := bind_eq_ok_iff.mp first
  obtain ⟨numbers, read, -⟩ := bind_eq_ok_iff.mp evaluated
  have given : cos.evaluateOn format .towardZero [pattern] =
      .ok ((Number.read format pattern).cos.round (format.precision + 2) .towardZero) := by
    rw [evaluateOn, read, numbersOf_eq_ok read]
    rfl
  rw [given]
  change ∃ cosine, finish format mode _ = .ok cosine
  generalize Number.read format pattern = number
  cases number with
  | nan | infinity => exact ⟨_, rfl⟩
  | zero negative =>
    have nonzero : (Truncation.exact 1 0).significand ≠ 0 := one_ne_zero
    have place : -exponentLimit ≤ (Truncation.exact 1 0).exponent := by decide
    obtain ⟨cut, finite, isCut⟩ :=
      Outcome.roundTruncation_above (Nat.succ_pos (format.precision + 1)) false nonzero place
    exact finish_completes mode finite isCut
  | finite value =>
    have above (further : ℕ) (bound : further ≤ 2 ^ 14 * (format.precision + 2 + 2 + 16)) :
        -exponentLimit ≤ (Trigonometric.cos value further).exponent := by
      have place := le_exponent_cos value further
      unfold exponentLimit
      omega
    obtain ⟨cut, finite, isCut⟩ := Outcome.round_enclosed_above (Nat.succ_pos _)
      (Trigonometric.cosIsNegative value) above
    exact finish_completes mode finite isCut

/-- The logarithm of the magnitude of the gamma function of any pattern is rounded. -/
theorem lgamma_completes (ranged : format.emax + format.fractionBits < exponentLimit)
    (precise : format.precision < 2 ^ 15) (mode : Mode) {pattern : ℕ}
    (fits : pattern < 2 ^ format.totalBits) :
    ∃ rounded, lgamma.evaluateInto format mode false [pattern] = .ok rounded := by
  rw [evaluateInto_eq, evaluateOn_of_fits ranged (by simpa using fits) rfl]
  change ∃ rounded, finish format mode
    ((Number.read format pattern).lgamma.round (format.precision + 2) .towardZero) = .ok rounded
  rcases Number.read_cases fits with
    same | ⟨negative, same⟩ | ⟨negative, same⟩ | ⟨negative, ordinal, -, -, -, same⟩
  · rw [same]
    exact ⟨_, rfl⟩
  · rw [same]
    exact ⟨_, rfl⟩
  · rw [same]
    exact ⟨_, rfl⟩
  · rw [same, Number.lgamma]
    split_ifs
    · exact ⟨_, rfl⟩
    · exact ⟨_, rfl⟩
    · have short : bitLength (format.dyadicAt negative ordinal).significand ≤ format.precision :=
        bitLength_le_iff.mpr (format.significandAt_lt ordinal)
      have above (further : ℕ) (bound : further ≤ 2 ^ 14 * (format.precision + 2 + 2 + 16)) :
          -exponentLimit ≤
            (Gamma.lgamma (format.dyadicAt negative ordinal) further).exponent := by
        have place := le_exponent_lgamma (format.dyadicAt negative ordinal) further
        unfold exponentLimit
        omega
      obtain ⟨cut, finite, isCut⟩ := Outcome.round_enclosed_above (Nat.succ_pos _) _ above
      exact finish_completes mode finite isCut

end Operation

/-- The precision of a machine type is small enough for both. -/
theorem Carrier.precise (carrier : Carrier) : carrier.format.precision < 2 ^ 15 := by
  cases carrier <;> decide

end LibmAudit
