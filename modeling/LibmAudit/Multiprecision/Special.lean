/-
**Special functions on multiprecision numbers.**

* `Number.erf`, `erfc`: the error functions.
* `Number.tgamma`, `lgamma`: the gamma function, with factorials exact, and the logarithm of its
  magnitude.
-/

import LibmAudit.Enclosure.ErrorFunction
import LibmAudit.Enclosure.Gamma
import LibmAudit.Multiprecision.Arithmetic

namespace LibmAudit.Number

/-- The error function. -/
def erf : Number → Outcome
  | nan => .nan
  | infinity negative => .exact ⟨negative, 1, 0⟩
  | zero negative => .zero negative
  | finite value => .enclosed value.negative (ErrorFunction.erf value)

/-- The complementary error function. -/
def erfc : Number → Outcome
  | nan => .nan
  | infinity negative => if negative then .exact ⟨false, 1, 1⟩ else .zero false
  | zero _ => .exact ⟨false, 1, 0⟩
  | finite value =>
    if 20 < value.top ∧ !value.negative then .minute false
    else .enclosed false (ErrorFunction.erfc value)

/-- The product of the first positive integers. -/
def factorial : Nat → Nat
  | 0 => 1
  | n + 1 => (n + 1) * factorial n

/-- From this argument on, with the exponent of the power of two above it, the gamma function leaves
the exponent range. -/
def gammaTop : Int := 30

/-- Whether the gamma function is negative: between an even number and the next one below it. -/
def gammaIsNegative (value : Dyadic) : Bool :=
  value.negative && !value.isInteger && value.floorMagnitude % 2 == 0

/-- The gamma function of a number that is not zero or a negative integer. -/
def gammaOf (value : Dyadic) : Outcome :=
  let negative := gammaIsNegative value
  if gammaTop < value.top then if value.negative then .minute negative else .vast false
  else
    .magnitude negative fun digits =>
      if value.isInteger ∧ value.floorMagnitude ≤ max 2000 digits then
        Truncation.exact (factorial (value.floorMagnitude - 1)) 0
      else refine (Gamma.tgamma value) digits

/-- The gamma function. -/
def tgamma : Number → Outcome
  | nan => .nan
  | infinity negative => if negative then .nan else .infinity false false
  | zero negative => .infinity negative true
  | finite value =>
    if value.negative ∧ value.isInteger then .nan else gammaOf value

/-- The logarithm of the magnitude of the gamma function. -/
def lgamma : Number → Outcome
  | nan => .nan
  | infinity _ => .infinity false false
  | zero _ => .infinity false true
  | finite value =>
    if value.negative ∧ value.isInteger then .infinity false true
    else if value.isUnit ∨ (value.scale (-1)).isUnit then .zero false
    else .enclosed (Gamma.lgammaIsNegative value) (Gamma.lgamma value)

end LibmAudit.Number
