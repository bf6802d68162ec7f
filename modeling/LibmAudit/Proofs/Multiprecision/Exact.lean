/-
**Exact outcomes are rounded once.**

Multiprecision arithmetic cuts an exact outcome toward zero before it is rounded into the format.
For numbers in the exponent range that is the rounding of the number itself, so that a machine which
rounds exact outcomes directly gives the same patterns.

* `Operation.finish_of_hasValue`: cutting and rounding into the format.
* `Outcome.InRange`: the outcomes that have no exponents out of range. `Operation.finish_nearest`:
  they are rounded to nearest as by the machine.
-/

import LibmAudit.Proofs.Multiprecision.Truncation
import LibmAudit.Proofs.Reference.Exactness

namespace LibmAudit

attribute [local instance (high)] instPowNat

variable {format : Format}

/-! ## Rounding into the format -/

/-- The leading digits of a number, all of them known. -/
def Dyadic.digits (value : Dyadic) : Truncation :=
  Truncation.exact value.significand value.exponent

theorem Dyadic.digits_determines (format : Format) {value : Dyadic}
    (nonzero : value.significand ≠ 0) : value.digits.Determines format value.magnitude :=
  ⟨nonzero, value.standsFor_magnitude, Or.inr rfl⟩

/-- An exact number in the exponent range is cut and rounded as the number itself. -/
theorem Operation.finish_of_hasValue (mode : Mode) {outcome : Outcome} {negative : Bool} {x : ℝ}
    (positive : 0 < x) (value : outcome.HasValue (signed negative x))
    (above : -exponentLimit ≤ Int.log 2 x) (below : Int.log 2 x < exponentLimit) :
    finish format mode (outcome.round (format.precision + 2) .towardZero) =
      .ok (format.roundReal mode negative x) := by
  obtain ⟨number, rfl, nonzero, same⟩ := value
  obtain ⟨rfl, rfl⟩ := signed_eq_signed (Dyadic.magnitude_pos nonzero).le positive same
  exact finish_of_determines mode (Dyadic.digits_determines format nonzero) above below
    number.negative

/-- The machine rounds an exact number directly. -/
theorem Native.ofOutcome_eq_roundReal {outcome : Outcome} {negative : Bool} {x : ℝ}
    (positive : 0 < x) (value : outcome.HasValue (signed negative x)) :
    (ofOutcome format outcome).pattern = (format.roundReal .nearestEven negative x).pattern := by
  obtain ⟨number, rfl, nonzero, same⟩ := value
  obtain ⟨rfl, rfl⟩ := signed_eq_signed (Dyadic.magnitude_pos nonzero).le positive same
  have rounded : nearest format number.negative
      (Truncation.exact number.significand number.exponent) =
        format.roundReal .nearestEven number.negative number.magnitude :=
    nearest_eq format number.negative nonzero rfl
  unfold ofOutcome Outcome.exact
  dsimp only
  rw [rounded]

/-! ## Outcomes in the exponent range -/

/-- The outcome is no number, or a number in the exponent range. -/
inductive Outcome.InRange : Outcome → Prop
  | nan : InRange .nan
  | infinity (negative pole : Bool) : InRange (.infinity negative pole)
  | zero (negative : Bool) : InRange (.zero negative)
  | cancelled : InRange .cancelled
  | number {outcome : Outcome} {y : ℝ} (value : outcome.HasValue y)
      (above : -exponentLimit ≤ Int.log 2 |y|) (below : Int.log 2 |y| < exponentLimit) :
      InRange outcome

/-- To nearest, multiprecision arithmetic and the machine give the same pattern. -/
theorem Operation.finish_nearest (format : Format) {outcome : Outcome}
    (inRange : outcome.InRange) :
    ∃ rounded, finish format .nearestEven (outcome.round (format.precision + 2) .towardZero) =
      .ok rounded ∧ rounded.pattern = (Native.ofOutcome format outcome).pattern := by
  cases inRange with
  | nan | infinity | zero | cancelled => exact ⟨_, rfl, rfl⟩
  | @number _ y value above below =>
    have positive := abs_pos.mpr (Dyadic.ne_zero_of_hasValue value)
    rw [← signed_abs y] at value
    exact ⟨_, finish_of_hasValue .nearestEven positive value above below,
      (Native.ofOutcome_eq_roundReal positive value).symm⟩

end LibmAudit
