/-
**The gamma function.**

* `Gamma.stirling`: the logarithm of the gamma function far from zero, by the asymptotic series,
  whose first term that is left out bounds its error.
* `Gamma.tgamma`, `lgamma`: the argument is moved far from zero by the recurrence, and to the
  positive side by reflection.
-/

import LibmAudit.Enclosure.Exponential
import LibmAudit.Enclosure.Logarithm
import LibmAudit.Enclosure.Trigonometric

namespace LibmAudit.Gamma

-- Powers are the built-in ones, whatever else is imported.
attribute [local instance (high)] instPowNat

/-- Adds the terms of the asymptotic series; `power` is an odd power of the reciprocal of the
argument, `index` the number of the term. -/
def stirlingSeries (scale : Nat) (square : Bracket) : List Nat → Nat → Bracket → Bracket → Bracket
  | [], _, _, sum => sum
  | tangent :: rest, index, power, sum =>
    let divisor := 4 ^ index * (4 ^ index - 1) * (2 * index - 1)
    let term := (power.timesInt tangent).overNat divisor
    stirlingSeries scale square rest (index + 1) (Bracket.mul scale power square)
      (sum.add (if index % 2 = 1 then term else term.neg))

/-- From where on the asymptotic series serves a grid. -/
def farEnough (scale : Nat) : Nat := scale / 4 + 8

/-- The logarithm of the gamma function of a number that is far enough from zero. -/
def stirling (scale : Nat) (argument : Dyadic) : Bracket :=
  let coefficients := tangentNumbers (scale / 8 + 4)
  let fine := scale + argument.top.toNat + bitLength (coefficients.getLastD 1) + 16
  let logarithm := Logarithm.bracket fine (Logarithm.exactly argument)
  let number := argument.bracket fine
  let reciprocal := Bracket.div fine (Bracket.ofInt fine 1) number
  let half := (Bracket.ofInt fine 1).shift (-1)
  let main := (Bracket.mul fine (number.sub half) logarithm).sub number
  let logTwoPi :=
    ((Bracket.ln2 fine).add
      (Logarithm.bracket fine ((Bracket.pi fine).toEnclosure fine))).shift (-1)
  let sum :=
    stirlingSeries fine (Bracket.square fine reciprocal) coefficients 1 reciprocal
      (main.add logTwoPi)
  (sum.rescale fine scale).widen 1

/-- The product of `count` consecutive numbers that start with `multiple / unit`, times a power of
`unit`. -/
def risingProduct (unit : Nat) : Nat → Nat → Nat
  | 0, _ => 1
  | count + 1, multiple => multiple * risingProduct unit count (multiple + unit)

/-- A positive argument moved far enough, the product of the numbers passed over as a multiple of a
power of two, and the exponent of the power with its sign changed. -/
def moveAway (scale : Nat) (argument : Dyadic) : Dyadic × Nat × Nat :=
  let count := farEnough scale - argument.floorMagnitude
  if count = 0 then (argument, 1, 0)
  else
    let (multiple, places) := argument.overPower
    let (moved, _) := argument.addInt count
    (Dyadic.ofMultiple moved places, risingProduct (2 ^ places) count multiple.toNat,
      places * count)

/-- The gamma function of a positive number as a bracket times a power of two. -/
def positive (scale : Nat) (argument : Dyadic) : Bracket × Int :=
  let (moved, product, places) := moveAway scale argument
  let (mantissa, power) := Exponential.ofBracket scale (stirling scale moved)
  let width := bitLength product
  let factor : Int := (2 ^ width : Nat)
  let value : Bracket :=
    ⟨mantissa.low * factor / product, ceilDiv (mantissa.high * factor) product⟩
  (value, power + places - width)

/-- The logarithm of the gamma function of a positive number. -/
def logPositive (scale : Nat) (argument : Dyadic) : Bracket :=
  let (moved, product, places) := moveAway scale argument
  (stirling scale moved).sub (Logarithm.bracket scale ⟨product, product, -(places : Int)⟩)

/-- One more than the magnitude of a number. -/
def oneMore (argument : Dyadic) : Dyadic :=
  let (multiple, places) := argument.abs.addInt 1
  Dyadic.ofMultiple multiple places

/-- The distance from a number that is no integer to the nearest integer. -/
def toNearest (argument : Dyadic) : Dyadic :=
  let (multiple, places) := argument.abs.overPower
  let unit := 2 ^ places
  let part := multiple.toNat % unit
  Dyadic.ofMultiple (min part (unit - part)) places

/-- The gamma function next to its pole at zero. -/
def besidePole (argument : Dyadic) (precision : Nat) : Enclosure :=
  let shift := precision + bitLength argument.significand
  let quotient := 2 ^ shift / argument.significand
  let exact := 2 ^ shift % argument.significand = 0
  let exponent := -argument.exponent - shift
  if argument.negative then ⟨quotient, quotient + (if exact then 1 else 2), exponent⟩
  else ⟨quotient - 1, quotient + (if exact then 0 else 1), exponent⟩

/-- The magnitude of the gamma function of a number that is not zero or a negative integer. -/
def tgamma (argument : Dyadic) (precision : Nat) : Enclosure :=
  if argument.top + precision + 2 < 0 then besidePole argument precision
  else if argument.negative then
    let fraction := toNearest argument
    let scale := precision + 16 + (-fraction.top).toNat
    let sine := Trigonometric.ofFraction scale fraction
    let (value, power) := positive scale (oneMore argument)
    ((Bracket.div scale (Bracket.pi scale) (Bracket.mul scale sine value)).toEnclosure scale).scale
      (-power)
  else
    let scale := precision + 16
    let (value, power) := positive scale argument
    (value.toEnclosure scale).scale power

/-- The logarithm of the magnitude of the gamma function of a number that is not zero or a negative
integer, on a grid. -/
def logBracket (argument : Dyadic) (scale : Nat) : Bracket :=
  if argument.top + scale + 2 < 0 then
    (Logarithm.bracket scale (Logarithm.exactly argument)).neg.widen 1
  else if argument.negative then
    let fraction := toNearest argument
    let fine := scale + 8 + (-fraction.top).toNat
    let sine := Trigonometric.ofFraction fine fraction
    let ratio := Bracket.div fine (Bracket.pi fine) sine
    ((Logarithm.bracket fine (ratio.toEnclosure fine)).sub
      (logPositive fine (oneMore argument))).rescale fine scale
  else logPositive scale argument

/-- Whether the argument is so large that the main term alone is precise. -/
def isVast (argument : Dyadic) (precision : Nat) : Bool :=
  (precision : Int) + bitLength argument.top.toNat + 2 < argument.top

/-- The main term of the logarithm of the gamma function of a large number. -/
def mainTerm (argument : Dyadic) (precision : Nat) : Enclosure :=
  let logarithm := Logarithm.bracket precision (Logarithm.exactly argument)
  let factor := logarithm.sub (Bracket.ofInt precision 1)
  ⟨argument.significand * (factor.low - 1).toNat, argument.significand * (factor.high + 1).toNat,
    argument.exponent - precision⟩

/-- The magnitude of the logarithm of the magnitude of the gamma function. -/
def lgamma (argument : Dyadic) (precision : Nat) : Enclosure :=
  if isVast argument precision then mainTerm argument precision
  else
    let scale := precision + 16
    (Trigonometric.magnitude (logBracket argument scale)).toEnclosure scale

/-- Whether the logarithm of the magnitude of the gamma function is negative. -/
def lgammaIsNegative (argument : Dyadic) : Bool :=
  if isVast argument 64 then argument.negative
  else Trigonometric.isNegative (logBracket argument) 12 64

end LibmAudit.Gamma
