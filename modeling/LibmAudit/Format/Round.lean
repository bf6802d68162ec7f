/-
**Rounding into a format.**

* `Format.round`: rounds `significand * 2 ^ exponent` in a mode and tells the exceptions. With
  `sticky` the magnitude is a little more, by less than one unit of the significand.
* The steps: `Format.placeFor` finds the exponent of the last place that the result keeps,
  `Format.cut` rounds to that place, `Cut.normalize` takes a carry into the next binade, and
  `Format.pack` writes the pattern or overflows.

An inexact result is tiny, and underflows, when the magnitude before rounding is below the smallest
normal value.
-/

import LibmAudit.Fault
import LibmAudit.Flags
import LibmAudit.Mode

namespace LibmAudit

-- Powers are the built-in ones, whatever else is imported.
attribute [local instance (high)] instPowNat

/-- A pattern and the exceptions of the operation that gave it. -/
structure Rounded where
  pattern : Nat
  flags : Flags
deriving DecidableEq

/-- A magnitude `kept * 2 ^ place`, and whether it is off the value it stands for. -/
structure Cut where
  kept : Nat
  place : Int
  inexact : Bool
deriving DecidableEq

namespace Format

/-- The exponent of the leading binary digit of a nonzero magnitude. -/
def leadingExponent (significand : Nat) (exponent : Int) : Int :=
  exponent + bitLength significand - 1

/-- The exponent of the last place that a result keeps. -/
def placeFor (format : Format) (significand : Nat) (exponent : Int) : Int :=
  max (leadingExponent significand exponent) format.emin - format.fractionBits

/-- The lower `shift` bits of a significand are rounded off. Beyond all bits and one more, each bit
that is rounded off has the same effect. -/
def cut (mode : Mode) (negative : Bool) (significand shift : Nat) (place : Int) (sticky : Bool) :
    Cut :=
  let width := min shift (bitLength significand + 1)
  let kept := significand / 2 ^ width
  let remainder := significand % 2 ^ width
  let half := 2 ^ (width - 1)
  let inexact := remainder != 0 || sticky
  let away := inexact && mode.roundsAway negative kept remainder half sticky
  ⟨if away then kept + 1 else kept, place, inexact⟩

/-- A significand that has grown by a carry loses its last bit, which is zero. -/
def normalize (format : Format) (result : Cut) : Cut :=
  if format.precision < bitLength result.kept then
    { result with kept := result.kept / 2, place := result.place + 1 }
  else result

/-- The result beyond the largest finite value. -/
def overflowed (format : Format) (mode : Mode) (negative : Bool) : Nat :=
  if mode.overflowsToInfinity negative then format.infinity negative
  else format.maxFinite negative

/-- The exceptions of a result before its range is known. -/
def inexactFlags (inexact tiny : Bool) : Flags :=
  { inexact := inexact, underflow := inexact && tiny }

/-- The pattern of a magnitude with at most `precision` bits. -/
def pack (format : Format) (mode : Mode) (negative : Bool) (result : Cut) (flags : Flags) :
    Rounded :=
  if result.kept = 0 then ⟨format.zero negative, flags⟩
  else
    let leading := leadingExponent result.kept result.place
    if format.emax < leading then
      ⟨format.overflowed mode negative, { flags with overflow := true, inexact := true }⟩
    else if bitLength result.kept < format.precision then
      ⟨format.signBit negative + result.kept, flags⟩
    else
      ⟨format.signBit negative + (leading + format.bias).toNat * 2 ^ format.fractionBits +
        result.kept % 2 ^ format.fractionBits, flags⟩

/-- A nonzero magnitude that is rounded off at a place above its last bit, or has no bit below. -/
def roundAt (format : Format) (mode : Mode) (negative : Bool) (significand : Nat) (exponent : Int)
    (sticky : Bool) : Rounded :=
  let place := format.placeFor significand exponent
  let shift := place - exponent
  let tiny := decide (leadingExponent significand exponent < format.emin)
  let result :=
    if 0 < shift then cut mode negative significand shift.toNat place sticky
    else ⟨significand * 2 ^ (-shift).toNat, place, false⟩
  format.pack mode negative (format.normalize result) (inexactFlags result.inexact tiny)

/-- Rounds a signed magnitude into the format. A sticky magnitude needs a bit below the last place
of the result. -/
def round (format : Format) (mode : Mode) (negative : Bool) (significand : Nat) (exponent : Int)
    (sticky : Bool) : Except Fault Rounded :=
  if significand = 0 then
    if sticky then .error .stickyZero else .ok ⟨format.zero negative, .none⟩
  else
    let shift := format.placeFor significand exponent - exponent
    if 0 < shift then
      (checkLength shift.toNat).map fun _ =>
        format.roundAt mode negative significand exponent sticky
    else if sticky then refuse (.stickyWithoutRoom (bitLength significand) exponent)
    else .ok (format.roundAt mode negative significand exponent false)

/-- Rounds a signed magnitude whose significand may be given as a negative integer, which is
refused. -/
def roundSigned (format : Format) (mode : Mode) (negative : Bool) (significand exponent : Int)
    (sticky : Bool) : Except Fault Rounded :=
  if significand < 0 then refuse (.negativeSignificand significand)
  else format.round mode negative significand.toNat exponent sticky

/-- Rounds an exact magnitude, which needs no room below the last place. -/
def roundExact (format : Format) (mode : Mode) (negative : Bool) (significand : Nat)
    (exponent : Int) : Rounded :=
  if significand = 0 then ⟨format.zero negative, .none⟩
  else format.roundAt mode negative significand exponent false

/-- Rounds an integer. -/
def roundInteger (format : Format) (mode : Mode) (value : Int) : Rounded :=
  format.roundExact mode (decide (value < 0)) value.natAbs 0

/-- Rounds the quotient of two integers. The quotient is first cut to at least three bits more than
the precision. -/
def roundRatio (format : Format) (mode : Mode) (negative : Bool) (numerator denominator : Nat) :
    Rounded :=
  if numerator = 0 then ⟨format.zero negative, .none⟩
  else
    let exponent : Int :=
      (bitLength numerator : Int) - bitLength denominator - (format.precision + 3)
    let scaledNumerator := numerator * 2 ^ (-exponent).toNat
    let scaledDenominator := denominator * 2 ^ exponent.toNat
    format.roundAt mode negative (scaledNumerator / scaledDenominator) exponent
      (scaledNumerator % scaledDenominator != 0)

end Format

end LibmAudit
