/-
**Arithmetic on multiprecision numbers.**

Sums, products, quotients, remainders and roots. All of them are exact in integer arithmetic, or
truncated with a sticky bit.

* `Number.add`, `sub`, `mul`, `div`, `fma`.
* `Number.fmod`, `remainder`, `quotient`: division with remainder, toward zero and to nearest even.
* `Number.sqrt`, `cbrt`, `hypot`.
-/

import LibmAudit.Multiprecision.Outcome

namespace LibmAudit

-- Powers are the built-in ones, whatever else is imported.
attribute [local instance (high)] instPowNat

namespace Dyadic

/-- Two numbers as multiples of one power of two: the multiples, and the exponent. -/
def align (first second : Dyadic) : Int × Int × Int :=
  let place := min first.exponent second.exponent
  (first.signed * (2 ^ (first.exponent - place).toNat : Nat),
    second.signed * (2 ^ (second.exponent - place).toNat : Nat), place)

/-- The product. -/
def mul (first second : Dyadic) : Dyadic :=
  ⟨first.negative != second.negative, first.significand * second.significand,
    first.exponent + second.exponent⟩

/-- The sum. -/
def add (first second : Dyadic) : Outcome :=
  let (multiple, other, place) := align first second
  Outcome.ofMultiple (multiple + other) place .cancelled

end Dyadic

/-- A division with remainder: the quotient of the magnitudes, and the remainder as a multiple of a
power of two. -/
structure Division where
  quotient : Nat
  remainder : Int
  place : Int

namespace Division

/-- The quotient of the magnitudes cut toward zero. -/
def truncated (dividend divisor : Dyadic) : Division :=
  let (multiple, other, place) := dividend.abs.align divisor.abs
  ⟨multiple.natAbs / other.natAbs, (multiple.natAbs % other.natAbs : Nat), place⟩

/-- The quotient of the magnitudes rounded to nearest even. -/
def nearest (dividend divisor : Dyadic) : Division :=
  let (multiple, other, place) := dividend.abs.align divisor.abs
  let quotient := multiple.natAbs / other.natAbs
  let remainder := multiple.natAbs % other.natAbs
  if other.natAbs < 2 * remainder ∨ (2 * remainder = other.natAbs ∧ quotient % 2 = 1) then
    ⟨quotient + 1, (remainder : Int) - other.natAbs, place⟩
  else ⟨quotient, remainder, place⟩

/-- The remainder for a dividend of this sign; a zero has that sign. -/
def outcome (negative : Bool) (division : Division) : Outcome :=
  Outcome.ofMultiple (if negative then -division.remainder else division.remainder)
    division.place (.zero negative)

end Division

namespace Number

/-- The sign; a NaN has none. -/
def isNegative : Number → Bool
  | nan => false
  | infinity negative => negative
  | zero negative => negative
  | finite value => value.negative

/-- The number with the other sign. -/
def neg : Number → Number
  | nan => nan
  | infinity negative => infinity (!negative)
  | zero negative => zero (!negative)
  | finite value => finite value.neg

/-- A number as a result. -/
def toOutcome : Number → Outcome
  | nan => .nan
  | infinity negative => .infinity negative false
  | zero negative => .zero negative
  | finite value => .exact value

/-! ## Sums and products -/

/-- The sum. -/
def add (first second : Number) : Outcome :=
  match first, second with
  | nan, _ | _, nan => .nan
  | infinity negative, infinity other =>
    if negative = other then .infinity negative false else .nan
  | infinity negative, _ | _, infinity negative => .infinity negative false
  | zero negative, zero other => if negative = other then .zero negative else .cancelled
  | zero _, finite value | finite value, zero _ => .exact value
  | finite value, finite other => value.add other

/-- The difference. -/
def sub (first second : Number) : Outcome := first.add second.neg

/-- The exact product, a number again. -/
def product (first second : Number) : Number :=
  let negative := first.isNegative != second.isNegative
  match first, second with
  | nan, _ | _, nan => nan
  | infinity _, zero _ | zero _, infinity _ => nan
  | infinity _, _ | _, infinity _ => infinity negative
  | zero _, _ | _, zero _ => zero negative
  | finite value, finite other => finite (value.mul other)

/-- The product. -/
def mul (first second : Number) : Outcome := (first.product second).toOutcome

/-- The product of two numbers plus a third one. -/
def fma (first second third : Number) : Outcome := (first.product second).add third

/-- The quotient. -/
def div (first second : Number) : Outcome :=
  let negative := first.isNegative != second.isNegative
  match first, second with
  | nan, _ | _, nan => .nan
  | infinity _, infinity _ | zero _, zero _ => .nan
  | infinity _, _ => .infinity negative false
  | _, infinity _ | zero _, _ => .zero negative
  | finite _, zero _ => .infinity negative true
  | finite value, finite other =>
    .magnitude negative
      (Truncation.ofRatio value.significand other.significand (value.exponent - other.exponent))

/-! ## Remainders -/

/-- The remainder of a division that is given for finite numbers. -/
def remainderBy (divide : Dyadic → Dyadic → Division) (first second : Number) : Outcome :=
  match first, second with
  | nan, _ | _, nan | infinity _, _ | _, zero _ => .nan
  | zero negative, _ => .zero negative
  | finite value, infinity _ => .exact value
  | finite value, finite other => (divide value other).outcome value.negative

/-- The remainder of the quotient cut toward zero. -/
def fmod : Number → Number → Outcome := remainderBy Division.truncated

/-- The remainder of the quotient rounded to nearest even. -/
def remainder : Number → Number → Outcome := remainderBy Division.nearest

/-- The quotient rounded to nearest even: its sign, and its magnitude modulo `2 ^ 63`. -/
def quotient (first second : Number) : Int :=
  match first, second with
  | finite value, finite other =>
    let magnitude : Int := ((Division.nearest value other).quotient % 2 ^ (63 : Nat) : Nat)
    if value.negative = other.negative then magnitude else -magnitude
  | _, _ => 0

/-! ## Roots -/

/-- The square root. -/
def sqrt : Number → Outcome
  | nan => .nan
  | zero negative => .zero negative
  | infinity negative => if negative then .nan else .infinity false false
  | finite value =>
    if value.negative then .nan
    else .magnitude false (Truncation.ofRoot 2 value.significand value.exponent)

/-- The cube root. -/
def cbrt : Number → Outcome
  | nan => .nan
  | zero negative => .zero negative
  | infinity negative => .infinity negative false
  | finite value =>
    .magnitude value.negative (Truncation.ofRoot 3 value.significand value.exponent)

/-- The root of a sum of squares. -/
def hypot (first second : Number) : Outcome :=
  match first, second with
  | infinity _, _ | _, infinity _ => .infinity false false
  | nan, _ | _, nan => .nan
  | zero _, zero _ => .zero false
  | zero _, finite value | finite value, zero _ => .exact value.abs
  | finite value, finite other =>
    let (multiple, addend, place) := value.square.align other.square
    .magnitude false (Truncation.ofRoot 2 (multiple + addend).natAbs place)

end Number

end LibmAudit
