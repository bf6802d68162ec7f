/-
**Powers.**

* `Power.rational?`: a power that is a quotient of dyadic numbers, found by taking square roots of
  the base. All other powers are irrational, or have more digits than asked for.
* `Power.enclose`: a power by way of the logarithm of its base.
-/

import LibmAudit.Enclosure.Exponential
import LibmAudit.Enclosure.Logarithm

namespace LibmAudit.Power

-- Powers are the built-in ones, whatever else is imported.
attribute [local instance (high)] instPowNat

/-- A quotient times a power of two. -/
structure Ratio where
  numerator : Nat
  denominator : Nat
  exponent : Int

/-- The square root of a dyadic number with an odd significand, when it is dyadic. -/
def root? (number : Dyadic) : Option Dyadic :=
  let root := floorRoot 2 number.significand
  if root * root = number.significand ∧ number.exponent % 2 = 0 then
    some ⟨false, root, number.exponent / 2⟩
  else none

/-- Takes square roots several times. -/
def roots? : Nat → Dyadic → Option Dyadic
  | 0, number => some number
  | count + 1, number => (root? number).bind (roots? count)

/-- The power with an integer exponent, unless its digits are too many to be asked for. -/
def integerPower? (base : Dyadic) (negative : Bool) (exponent digits : Nat) : Option Ratio :=
  let power : Int := base.exponent * exponent
  if base.significand = 1 then some ⟨1, 1, if negative then -power else power⟩
  else if max 4096 (2 * digits) < exponent * bitLength base.significand then none
  else if negative then some ⟨1, base.significand ^ exponent, -power⟩
  else some ⟨base.significand ^ exponent, 1, power⟩

/-- The power of a positive base other than one, both reduced to odd significands. -/
def rational? (base exponent : Dyadic) (digits : Nat) : Option Ratio :=
  match roots? (-exponent.exponent).toNat base with
  | some root =>
    integerPower? root exponent.negative (exponent.significand * 2 ^ exponent.exponent.toNat) digits
  | none => none

/-- The magnitude of the logarithm of a positive number is below two to this power, and not much
less. -/
def logTop (base : Dyadic) : Int :=
  if base.top = 0 ∨ base.top = 1 then 2 - (Logarithm.lostBits base : Int)
  else bitLength base.top.natAbs + 1

/-- Whether the power of a positive base other than one is above one. -/
def isAboveOne (base exponent : Dyadic) : Bool :=
  decide (1 ≤ base.top) != exponent.negative

/-- The power of a positive base other than one. -/
def enclose (base exponent : Dyadic) (precision : Nat) : Enclosure :=
  if exponent.top + logTop base + precision + 2 < 0 then
    if isAboveOne base exponent then Enclosure.justAbove 1 0 precision
    else Enclosure.justBelow 1 0 precision
  else
    let scale := precision + 16 + exponent.top.toNat
    let logarithm := Logarithm.bracket scale (Logarithm.exactly base)
    let product := (logarithm.timesInt exponent.signed).shift exponent.exponent
    let (mantissa, power) := Exponential.ofBracket scale product
    (mantissa.toEnclosure scale).scale power

end LibmAudit.Power
