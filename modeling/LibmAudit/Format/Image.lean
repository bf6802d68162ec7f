/-
**Patterns in memory.**

A machine type keeps a pattern in a number of bytes. The extended type also keeps the leading bit of
the significand, between the exponent and the fraction, and pads the image with zeros.

* `Format.imageOf`, `Format.ofImage`: the image of a pattern, and the pattern of an image with any
  padding.
* `Format.store`: the image of an integer that has to be a pattern of the format.
-/

import LibmAudit.Fault

namespace LibmAudit.Format

-- Powers are the built-in ones, whatever else is imported.
attribute [local instance (high)] instPowNat

/-- The leading bit of the significand: zeros and subnormal values do without it. -/
def leadingBit (format : Format) (pattern : Nat) : Nat :=
  if format.exponentField pattern = 0 then 0 else 1

/-- The image of a pattern with the leading bit between the exponent and the fraction. -/
def wideImage (format : Format) (pattern : Nat) : Nat :=
  (format.isNegative pattern).toNat * 2 ^ format.totalBits +
    format.exponentField pattern * 2 ^ (format.fractionBits + 1) +
    format.leadingBit pattern * 2 ^ format.fractionBits + format.fractionField pattern

/-- The pattern of an image with the leading bit, whatever that bit is. -/
def ofWideImage (format : Format) (image : Nat) : Nat :=
  image / 2 ^ format.totalBits % 2 * 2 ^ (format.totalBits - 1) +
    image / 2 ^ (format.fractionBits + 1) % 2 ^ format.exponentBits * 2 ^ format.fractionBits +
    image % 2 ^ format.fractionBits

/-- The image of a pattern. -/
def imageOf (format : Format) (pattern : Nat) : Nat :=
  if format.storesLeadingBit then format.wideImage pattern else pattern

/-- The pattern of an image; what is beyond its bits is padding. -/
def ofImage (format : Format) (image : Nat) : Nat :=
  if format.storesLeadingBit then format.ofWideImage image else image % 2 ^ format.totalBits

/-- Whether an integer is a pattern of the format. -/
def isPattern (format : Format) (pattern : Int) : Bool :=
  decide (0 ≤ pattern ∧ pattern < (2 ^ format.totalBits : Nat))

/-- The image of an integer, which has to be a pattern of the format of a machine type. -/
def store (format : Format) (pattern : Int) : Except Fault Nat :=
  if format.carrier?.isNone then
    .error (.noTypeForPatterns format.exponentBits format.totalBits)
  else if format.isPattern pattern then .ok (format.imageOf pattern.toNat)
  else .error (.patternTooWide pattern format.totalBits)

/-- The pattern that an integer is after it has been stored and read back. -/
def restore (format : Format) (pattern : Int) : Except Fault Nat :=
  (format.store pattern).map format.ofImage

end LibmAudit.Format
