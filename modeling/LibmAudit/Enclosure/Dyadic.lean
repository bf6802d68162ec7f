/-
**Dyadic arguments.**

* `Dyadic`: a nonzero number `significand * 2 ^ exponent` with its sign.
* `Dyadic.top`: the magnitude is below `2 ^ top` and at least half of that.
* `Dyadic.addInt`, `square`: exact arithmetic.
-/

import LibmAudit.Enclosure.Bracket

namespace LibmAudit

-- Powers are the built-in ones, whatever else is imported.
attribute [local instance (high)] instPowNat

/-- A nonzero number with a finite binary expansion. -/
structure Dyadic where
  negative : Bool
  significand : Nat
  exponent : Int

namespace Dyadic

/-- The exponent of the power of two just above the magnitude. -/
def top (number : Dyadic) : Int := number.exponent + bitLength number.significand

/-- The significand with the sign. -/
def signed (number : Dyadic) : Int :=
  if number.negative then -(number.significand : Int) else number.significand

/-- The magnitude. -/
def abs (number : Dyadic) : Dyadic := { number with negative := false }

/-- The number with the other sign. -/
def neg (number : Dyadic) : Dyadic := { number with negative := !number.negative }

/-- The number times a power of two. -/
def scale (power : Int) (number : Dyadic) : Dyadic :=
  { number with exponent := number.exponent + power }

/-- The square. -/
def square (number : Dyadic) : Dyadic :=
  ⟨false, number.significand * number.significand, 2 * number.exponent⟩

/-- The bracket on a grid. -/
def bracket (scale : Nat) (number : Dyadic) : Bracket :=
  Bracket.ofDyadic scale number.signed number.exponent

/-- The number as a multiple of a power of two that is not above one: the multiple, and the exponent
of the power with its sign changed. -/
def overPower (number : Dyadic) : Int × Nat :=
  (number.signed * (2 ^ number.exponent.toNat : Nat), (-number.exponent).toNat)

/-- The sum with an integer, which may be zero, as a multiple of a power of two. -/
def addInt (value : Int) (number : Dyadic) : Int × Nat :=
  let (multiple, places) := number.overPower
  (multiple + value * (2 ^ places : Nat), places)

/-- The nonzero number `multiple / 2 ^ places`. -/
def ofMultiple (multiple : Int) (places : Nat) : Dyadic :=
  ⟨decide (multiple < 0), multiple.natAbs, -(places : Int)⟩

/-- Whether the number is an integer. -/
def isInteger (number : Dyadic) : Bool :=
  0 ≤ number.exponent || number.significand % 2 ^ (-number.exponent).toNat == 0

/-- The integer part of the magnitude. -/
def floorMagnitude (number : Dyadic) : Nat :=
  number.significand * 2 ^ number.exponent.toNat / 2 ^ (-number.exponent).toNat

/-- Divides the significand by two as long as it is even. -/
def stripTwos : Nat → Nat → Nat × Nat
  | 0, significand => (significand, 0)
  | fuel + 1, significand =>
    if significand % 2 = 0 then
      let (odd, count) := stripTwos fuel (significand / 2)
      (odd, count + 1)
    else (significand, 0)

/-- The same number with an odd significand. -/
def reduced (number : Dyadic) : Dyadic :=
  let (odd, count) := stripTwos (bitLength number.significand) number.significand
  ⟨number.negative, odd, number.exponent + count⟩

/-- Whether the magnitude is one. -/
def isUnit (number : Dyadic) : Bool :=
  number.reduced.significand == 1 && number.reduced.exponent == 0

/-- Whether the number is an odd integer. -/
def isOdd (number : Dyadic) : Bool :=
  number.reduced.exponent == 0

end Dyadic

end LibmAudit
