/-
**Truncations are rounded once.**

The leading digits of a number and a sticky bit are cut toward zero before they are rounded into the
format. With two digits more than the format has, that is the rounding of the number itself.

* `Truncation.Determines`: the digits stand for a number and are as many as a format needs.
* `Truncation.cutTo_magnitude`, `isCut_iff`: what the cut leaves, and whether it drops something.
* `Outcome.roundTruncation_of_inRange`: in the exponent range the cut is all there is to rounding.
* `Operation.finish_of_determines`: cutting and rounding into the format.
-/

import LibmAudit.Proofs.Multiprecision.Modes
import LibmAudit.Proofs.Rounding.TwoStep

namespace LibmAudit

attribute [local instance (high)] instPowNat

variable {format : Format}

/-! ## Cutting -/

/-- The digits stand for a number, and two more are known than the format has if there are more. -/
structure Truncation.Determines (format : Format) (truncation : Truncation) (x : ℝ) : Prop where
  nonzero : truncation.significand ≠ 0
  standsFor : StandsFor truncation.significand truncation.exponent truncation.sticky x
  enough : format.precision + 2 ≤ bitLength truncation.significand ∨ truncation.sticky = false

namespace Truncation.Determines

variable {truncation : Truncation} {x : ℝ}

theorem pos (given : truncation.Determines format x) : 0 < x :=
  given.standsFor.pos given.nonzero

theorem cutPlace_eq (given : truncation.Determines format x) :
    format.cutPlace x =
      truncation.exponent + bitLength truncation.significand - (format.precision + 2 : ℕ) := by
  rw [Format.cutPlace, given.standsFor.log_eq given.nonzero, Format.leadingExponent]
  ring

/-- Digits beyond those of the format are cut off. -/
theorem cutSignificand_of_long (given : truncation.Determines format x)
    (long : format.precision + 2 ≤ bitLength truncation.significand) :
    format.cutSignificand x = truncation.significand /
      2 ^ (bitLength truncation.significand - (format.precision + 2)) := by
  obtain ⟨excess, nonneg, small, -, written⟩ := given.standsFor.exists_excess
  have place : format.cutPlace x = truncation.exponent +
      ((bitLength truncation.significand - (format.precision + 2) : ℕ) : ℤ) := by
    have := given.cutPlace_eq
    omega
  have floor : ⌊(truncation.significand : ℝ) + excess⌋₊ = truncation.significand := by
    rw [Nat.floor_eq_iff (by positivity)]
    exact ⟨by linarith, by linarith⟩
  have scaled : x / 2 ^ format.cutPlace x = (truncation.significand + excess) /
      (2 ^ (bitLength truncation.significand - (format.precision + 2)) : ℕ) := by
    rw [place, zpow_add₀ two_ne_zero, zpow_natCast, written, mul_comm (2 ^ truncation.exponent),
      mul_div_mul_right _ _ (by positivity)]
    push_cast
    rfl
  rw [Format.cutSignificand, scaled, Nat.floor_div_natCast, floor]

/-- Digits that the format has room for are left as they are. -/
theorem truncated_of_short (given : truncation.Determines format x)
    (short : bitLength truncation.significand < format.precision + 2) :
    truncation.sticky = false ∧ x = truncation.significand * 2 ^ truncation.exponent ∧
      format.truncated x = x := by
  have exact : truncation.sticky = false := given.enough.resolve_left (not_le.mpr short)
  have written := given.standsFor
  rw [StandsFor, exact, if_neg Bool.false_ne_true] at written
  have place := given.cutPlace_eq
  have split : truncation.exponent = ((format.precision + 2 - bitLength truncation.significand : ℕ)
      : ℤ) + format.cutPlace x := by
    omega
  have scaled : x / 2 ^ format.cutPlace x = (truncation.significand *
      2 ^ (format.precision + 2 - bitLength truncation.significand) : ℕ) := by
    rw [div_eq_iff (by positivity)]
    nth_rewrite 1 [written]
    nth_rewrite 1 [split]
    rw [zpow_add₀ two_ne_zero, zpow_natCast]
    push_cast
    ring
  refine ⟨exact, written, ?_⟩
  rw [format.truncated_eq, Format.cutSignificand, scaled, Nat.floor_natCast, ← scaled,
    div_mul_cancel₀ _ (by positivity)]

/-- Cutting leaves what rounding toward zero leaves. -/
theorem cutTo_magnitude (given : truncation.Determines format x) (negative : Bool) :
    (truncation.cutTo (format.precision + 2) negative).magnitude = format.truncated x := by
  unfold cutTo Dyadic.magnitude
  dsimp only
  rcases Nat.lt_or_ge (bitLength truncation.significand) (format.precision + 2) with short | long
  · obtain ⟨-, written, whole⟩ := given.truncated_of_short short
    rw [whole, Nat.sub_eq_zero_of_le short.le, pow_zero, Nat.div_one, Nat.cast_zero, add_zero]
    exact written.symm
  · have place : format.cutPlace x = truncation.exponent +
        ((bitLength truncation.significand - (format.precision + 2) : ℕ) : ℤ) := by
      have := given.cutPlace_eq
      omega
    rw [format.truncated_eq, given.cutSignificand_of_long long, place]

/-- Something is dropped if what is left is another number. -/
theorem isCut_iff (given : truncation.Determines format x) :
    truncation.isCut (format.precision + 2) = true ↔ format.truncated x ≠ x := by
  obtain ⟨excess, nonneg, -, isSticky, written⟩ := given.standsFor.exists_excess
  have left := given.cutTo_magnitude false
  have whole := Nat.div_add_mod' truncation.significand
    (2 ^ (bitLength truncation.significand - (format.precision + 2)))
  set rest := truncation.significand %
    2 ^ (bitLength truncation.significand - (format.precision + 2)) with rest_eq
  have dropped : x = format.truncated x + (rest + excess) * 2 ^ truncation.exponent := by
    rw [← left]
    unfold cutTo Dyadic.magnitude
    dsimp only
    rw [written, zpow_add₀ two_ne_zero, zpow_natCast]
    nth_rewrite 1 [← whole]
    push_cast
    ring
  have unit : (2 : ℝ) ^ truncation.exponent ≠ 0 := by positivity
  have error : x - format.truncated x = (rest + excess) * 2 ^ truncation.exponent :=
    sub_eq_iff_eq_add'.mpr dropped
  have same : format.truncated x = x ↔ rest + excess = 0 := by
    rw [eq_comm, ← sub_eq_zero, error, mul_eq_zero, or_iff_left unit]
  have parts : (rest : ℝ) + excess = 0 ↔ rest = 0 ∧ excess = 0 := by
    rw [add_eq_zero_iff_of_nonneg (Nat.cast_nonneg _) nonneg, Nat.cast_eq_zero]
  rw [ne_eq (format.truncated x), same, parts, not_and_or, isCut, ← rest_eq, Bool.or_eq_true,
    bne_iff_ne, isSticky]

end Truncation.Determines

/-! ## Rounding into the format -/

/-- A number that is cut, and whether something was dropped, are rounded as the number itself. -/
theorem Number.toPattern_of_cut (mode : Mode) {x : ℝ} {value : Dyadic} {sticky : Bool}
    (positive : 0 < x) (isSticky : sticky = true ↔ format.truncated x ≠ x)
    (same : value.magnitude = format.truncated x) (inRange : -exponentLimit ≤ value.top)
    (precision : ℕ) :
    toPattern format mode (.finite value) sticky precision =
      .ok (format.roundReal mode value.negative x) := by
  have nonzero : value.significand ≠ 0 := by
    rw [Dyadic.significand_ne_zero_iff, same]
    exact (format.truncated_pos positive).ne'
  exact Format.round_widened mode value.negative positive isSticky
    (value.reduced_magnitude.trans same) (by rwa [Dyadic.reduced_top nonzero])
    ((Dyadic.bitLength_reduced_le positive same).trans_lt
      (Nat.add_lt_add_left (by decide) format.precision))

section

variable {truncation : Truncation} {x : ℝ}

/-- What is cut has the leading digit of the number. -/
theorem Truncation.Determines.top_cutTo (given : truncation.Determines format x)
    (negative : Bool) :
    (truncation.cutTo (format.precision + 2) negative).top = Int.log 2 x + 1 := by
  have cut := given.cutTo_magnitude negative
  have left : (truncation.cutTo (format.precision + 2) negative).significand ≠ 0 := by
    rw [Dyadic.significand_ne_zero_iff, cut]
    exact (format.truncated_pos given.pos).ne'
  have log := Dyadic.log_magnitude left
  rw [cut, format.log_truncated given.pos, Format.cutPlace] at log
  push_cast at log
  omega

/-- In the exponent range rounding toward zero cuts the digits and marks the error. -/
theorem Outcome.roundTruncation_of_inRange (given : truncation.Determines format x)
    (above : -exponentLimit ≤ Int.log 2 x) (below : Int.log 2 x < exponentLimit)
    (negative : Bool) :
    roundTruncation (format.precision + 2) .towardZero negative truncation =
      ⟨.finite (truncation.cutTo (format.precision + 2) negative),
        if truncation.isCut (format.precision + 2) then -outward negative else 0, .none⟩ := by
  have top := given.top_cutTo negative
  rw [roundTruncation_towardZero, if_neg (by omega), if_neg (by omega)]

/-- A number in the exponent range is cut and rounded as the number itself. -/
theorem Operation.finish_of_determines (mode : Mode) (given : truncation.Determines format x)
    (above : -exponentLimit ≤ Int.log 2 x) (below : Int.log 2 x < exponentLimit)
    (negative : Bool) :
    finish format mode
        (Outcome.roundTruncation (format.precision + 2) .towardZero negative truncation) =
      .ok (format.roundReal mode negative x) := by
  have top := given.top_cutTo negative
  have isSticky : ((if truncation.isCut (format.precision + 2) then
      -Outcome.outward negative else 0) != 0) = truncation.isCut (format.precision + 2) := by
    split
    · next dropped => simpa [dropped] using Outcome.outward_ne_zero negative
    · next kept => simp [kept]
  have rounded := Number.toPattern_of_cut mode given.pos given.isCut_iff
    (given.cutTo_magnitude negative) (by omega) (format.precision + 2)
  rw [Outcome.roundTruncation_of_inRange given above below, finish_eq_map]
  dsimp only
  rw [isSticky, rounded]
  show Except.ok (⟨_, Flags.none.union _⟩ : Rounded) = _
  rw [Flags.none_union]
  rfl

end

end LibmAudit
