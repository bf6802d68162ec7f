/-
**Bit patterns.**

A pattern is an integer read in the interchange encoding of a format. All functions also answer for
integers wider than the format and for negative ones, read in two's complement.

* `Format.isNaN`, `isInfinite`, `isZero`, `isSubnormal`, `isFinite`, `isNegative`: the classes.
* `Format.exponentOf?`, `significandOf?`, `scaled?`: the value of a finite pattern.
* `Format.toOrdinal`, `ofOrdinal`: the numbering of the values in their order, both zeros at 0.
* `Format.quietNaN`, `infinity`, `zero`, `maxFinite`, `minNormal`, `minSubnormal`: the patterns with
  a name.
-/

import LibmAudit.Format.Basic

namespace LibmAudit.Format

-- Powers are the built-in ones, whatever else is imported.
attribute [local instance (high)] instPowNat

/-! ## Fields -/

/-- The weight of the sign bit, for a negative pattern. -/
def signBit (format : Format) (negative : Bool) : Nat :=
  if negative then 2 ^ (format.totalBits - 1) else 0

/-- The sign bit of a pattern: set for negative values, `-0`, `-inf` and some NaNs. -/
def isNegative (format : Format) (pattern : Int) : Bool :=
  bitAt (format.totalBits - 1) pattern

/-- The exponent field of a pattern. -/
def exponentField (format : Format) (pattern : Int) : Nat :=
  lowBits format.exponentBits (dropBits format.fractionBits pattern)

/-- The fraction field of a pattern. -/
def fractionField (format : Format) (pattern : Int) : Nat :=
  lowBits format.fractionBits pattern

/-- A pattern without its sign bit. -/
def magnitudeField (format : Format) (pattern : Int) : Nat :=
  lowBits (format.totalBits - 1) pattern

/-! ## Classes -/

/-- A pattern that stands for no number. -/
def isNaN (format : Format) (pattern : Int) : Bool :=
  format.exponentField pattern == format.exponentMask && format.fractionField pattern != 0

/-- A pattern of an infinity. -/
def isInfinite (format : Format) (pattern : Int) : Bool :=
  format.exponentField pattern == format.exponentMask && format.fractionField pattern == 0

/-- A pattern of a zero. -/
def isZero (format : Format) (pattern : Int) : Bool :=
  format.magnitudeField pattern == 0

/-- A pattern of a nonzero value below the normal ones. -/
def isSubnormal (format : Format) (pattern : Int) : Bool :=
  format.exponentField pattern == 0 && format.fractionField pattern != 0

/-- A pattern of a real number. -/
def isFinite (format : Format) (pattern : Int) : Bool :=
  format.exponentField pattern != format.exponentMask

/-! ## Values -/

/-- The exponent of a finite value; zeros and subnormal values have the lowest one. -/
def exponentOf? (format : Format) (pattern : Int) : Option Int :=
  let field := format.exponentField pattern
  if field = format.exponentMask then none
  else if field = 0 then some format.emin
  else some ((field : Int) - format.bias)

/-- The significand of a finite value as an integer, its leading bit included. -/
def significandOf? (format : Format) (pattern : Int) : Option Nat :=
  let field := format.exponentField pattern
  if field = format.exponentMask then none
  else if field = 0 then some (format.fractionField pattern)
  else some (2 ^ format.fractionBits + format.fractionField pattern)

/-- The exponent of the distance from a finite value to the next one away from zero. -/
def placeOf? (format : Format) (pattern : Int) : Option Int :=
  (format.exponentOf? pattern).map (· - format.fractionBits)

/-- A finite value as a signed significand and an exponent; the sign of zero is lost. -/
def scaled? (format : Format) (pattern : Int) : Option (Int × Int) :=
  let field := format.exponentField pattern
  let fraction := format.fractionField pattern
  let signed (significand : Nat) : Int :=
    if format.isNegative pattern then -(significand : Int) else significand
  if field = 0 then some (signed fraction, format.emin - format.fractionBits)
  else if (field : Int) ≤ 2 * format.emax then
    some (signed (2 ^ format.fractionBits + fraction),
      (field : Int) - format.bias - format.fractionBits)
  else none

/-! ## Order -/

/-- Numbers the values so that neighbours differ by one. Both zeros have number 0. -/
def toOrdinal (format : Format) (pattern : Int) : Int :=
  if format.isNegative pattern then -(format.magnitudeField pattern : Int) else pattern

/-- The pattern with a number; zero is positive. -/
def ofOrdinal (format : Format) (ordinal : Int) : Nat :=
  if ordinal < 0 then 2 ^ (format.totalBits - 1) ||| ordinal.natAbs else ordinal.natAbs

/-! ## Named patterns -/

/-- The NaN with the top fraction bit set and no other. -/
def quietNaN (format : Format) (negative : Bool) : Nat :=
  format.signBit negative + format.exponentMask * 2 ^ format.fractionBits +
    2 ^ (format.fractionBits - 1)

/-- An infinity. -/
def infinity (format : Format) (negative : Bool) : Nat :=
  format.signBit negative + format.exponentMask * 2 ^ format.fractionBits

/-- A zero. -/
def zero (format : Format) (negative : Bool) : Nat :=
  format.signBit negative

/-- The finite value of the largest magnitude. -/
def maxFinite (format : Format) (negative : Bool) : Nat :=
  format.signBit negative + (format.exponentMask - 1) * 2 ^ format.fractionBits +
    format.fractionMask

/-- The normal value of the smallest magnitude. -/
def minNormal (format : Format) (negative : Bool) : Nat :=
  format.signBit negative + 2 ^ format.fractionBits

/-- The nonzero value of the smallest magnitude. -/
def minSubnormal (format : Format) (negative : Bool) : Nat :=
  format.signBit negative + 1

end LibmAudit.Format
