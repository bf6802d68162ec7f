/-
**What correct rounding is.**

* `StandsFor`: the magnitudes that a significand, an exponent and a sticky bit leave open.
* `Format.RoundsUp`, `RoundsDown`, `RoundsToNearest`: the value of a pattern is the least one of the
  format from a number on, the greatest one up to it, or the nearest one.
* `Format.RoundsTo`: one of these by the mode.
* `Mode.roundToPrecision`: rounding to a number of significant bits without bounds on the exponent.
* `Format.IsRounding`: pattern and exceptions of the correctly rounded result.
-/

import LibmAudit.Format.Round
import LibmAudit.Proofs.Value

namespace LibmAudit

attribute [local instance (high)] instPowNat

/-- A magnitude that a significand and an exponent give; with `sticky` it is a little more, by less
than one unit of the significand. -/
def StandsFor (significand : ℕ) (exponent : ℤ) (sticky : Bool) (x : ℝ) : Prop :=
  if sticky then significand * 2 ^ exponent < x ∧ x < (significand + 1) * 2 ^ exponent
  else x = significand * 2 ^ exponent

/-! ## Without bounds on the exponent -/

open Classical in
/-- The nearest integer to a magnitude, ties to even. -/
noncomputable def nearestEvenInteger (x : ℝ) : ℕ :=
  if x - ⌊x⌋₊ < 1 / 2 ∨ (x - ⌊x⌋₊ = 1 / 2 ∧ Even ⌊x⌋₊) then ⌊x⌋₊ else ⌊x⌋₊ + 1

/-- A magnitude with a sign rounded to an integer. -/
noncomputable def Mode.roundToInteger (mode : Mode) (negative : Bool) (x : ℝ) : ℕ :=
  match mode with
  | nearestEven => nearestEvenInteger x
  | nearestAway => ⌊x + 1 / 2⌋₊
  | up => if negative then ⌊x⌋₊ else ⌈x⌉₊
  | down => if negative then ⌈x⌉₊ else ⌊x⌋₊
  | towardZero => ⌊x⌋₊
  | awayFromZero => ⌈x⌉₊

/-- A magnitude with a sign rounded to a number of significant bits. -/
noncomputable def Mode.roundToPrecision (mode : Mode) (negative : Bool) (precision : ℕ) (x : ℝ) :
    ℝ :=
  let unit : ℝ := 2 ^ (Int.log 2 x + 1 - precision)
  mode.roundToInteger negative (x / unit) * unit

/-! ## Into a format -/

namespace Format

/-- The pattern has the least value from `y` on. -/
def RoundsUp (format : Format) (y : ℝ) (pattern : ℕ) : Prop :=
  IsLeast {value ∈ format.values | y ≤ value} (format.valueOf pattern)

/-- The pattern has the greatest value up to `y`. -/
def RoundsDown (format : Format) (y : ℝ) (pattern : ℕ) : Prop :=
  IsGreatest {value ∈ format.values | value ≤ y} (format.valueOf pattern)

/-- From this magnitude on the nearest modes give an infinity: half a unit in the last place above
the largest finite value. -/
noncomputable def overflowThreshold (format : Format) : ℝ :=
  2 ^ format.emax * (2 - 2 ^ (-format.precision : ℤ))

/-- The pattern has the nearest value to `y`. Where another value is as near, the pattern wins the
tie. -/
def RoundsToNearest (format : Format) (winsTie : ℝ → Prop) (y : ℝ) (pattern : ℕ) : Prop :=
  if format.overflowThreshold ≤ |y| then format.isInfinite pattern = true
  else
    format.isFinite pattern = true ∧
      ∀ other : ℕ, other < 2 ^ format.totalBits → format.isFinite other = true →
        |format.realOf pattern - y| ≤ |format.realOf other - y| ∧
          (|format.realOf pattern - y| = |format.realOf other - y| →
            format.realOf pattern ≠ format.realOf other → winsTie (format.realOf other))

/-- The pattern has the value that a magnitude with a sign is rounded to. -/
def RoundsTo (format : Format) (mode : Mode) (negative : Bool) (x : ℝ) (pattern : ℕ) : Prop :=
  let y := signed negative x
  match mode with
  | .nearestEven => format.RoundsToNearest (fun _ => Even pattern) y pattern
  | .nearestAway =>
    format.RoundsToNearest (fun other => |other| ≤ |format.realOf pattern|) y pattern
  | .up => format.RoundsUp y pattern
  | .down => format.RoundsDown y pattern
  | .towardZero => if negative then format.RoundsUp y pattern else format.RoundsDown y pattern
  | .awayFromZero => if negative then format.RoundsDown y pattern else format.RoundsUp y pattern

/-- A pattern and exceptions are those of a magnitude with a sign, rounded correctly. -/
structure IsRounding (format : Format) (mode : Mode) (negative : Bool) (x : ℝ) (result : Rounded) :
    Prop where
  fits : result.pattern < 2 ^ format.totalBits
  isNumber : format.isNaN result.pattern = false
  sign : format.isNegative result.pattern = negative
  value : format.RoundsTo mode negative x result.pattern
  inexact : result.flags.inexact = true ↔ format.valueOf result.pattern ≠ (signed negative x : ℝ)
  underflow : result.flags.underflow = true ↔ result.flags.inexact = true ∧ x < 2 ^ format.emin
  overflow : result.flags.overflow = true ↔
    2 ^ (format.emax + 1) ≤ mode.roundToPrecision negative format.precision x
  noOther : result.flags.invalid = false ∧ result.flags.divideByZero = false ∧
    result.flags.unnamed = 0

end Format

end LibmAudit
