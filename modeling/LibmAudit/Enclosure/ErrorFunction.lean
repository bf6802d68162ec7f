/-
**The error function.**

* `ErrorFunction.erf`: by a series of positive terms.
* `ErrorFunction.erfc`: for large arguments by the asymptotic series, whose terms bound its error,
  and from the error function otherwise.
-/

import LibmAudit.Enclosure.Exponential

namespace LibmAudit.ErrorFunction

-- Powers are the built-in ones, whatever else is imported.
attribute [local instance (high)] instPowNat

/-- Whether the square of a number is at least `bound`. -/
def squareAtLeast (bound : Nat) (argument : Dyadic) : Bool :=
  bitLength bound < argument.top || bound ≤ argument.square.floorMagnitude

/-- Adds the terms after `term`, each the last one times the doubled square over the next odd
number, until they are below a unit and fall by half. -/
def series (scale : Nat) (doubled : Bracket) : Nat → Nat → Bracket → Bracket → Bracket
  | 0, _, _, sum => sum
  | count + 1, odd, term, sum =>
    if term.high ≤ 1 ∧ 2 * doubled.high < (odd : Int) * (2 ^ scale : Nat) then sum.widen 2
    else
      let next := (Bracket.mul scale term doubled).overNat (odd + 2)
      series scale doubled count (odd + 2) next (sum.add next)

/-- The reciprocal of the root of the ratio of a circle's circumference to its diameter. -/
def reciprocalRootPi (scale : Nat) : Bracket :=
  Bracket.div scale (Bracket.ofInt scale 1) (Bracket.sqrt scale (Bracket.pi scale))

/-- The error function divided by its argument, as a bracket times a power of two. -/
def overArgument (argument : Dyadic) (scale : Nat) : Bracket × Int :=
  let square := argument.square
  let doubled := (square.scale 1).bracket scale
  let one := Bracket.ofInt scale 1
  let sum := series scale doubled (8 * square.floorMagnitude + 2 * scale + 16) 1 one one
  let (mantissa, power) := Exponential.bracket square.neg scale
  (Bracket.mul scale (Bracket.mul scale sum mantissa) (reciprocalRootPi scale), power + 1)

/-- The magnitude of the error function. -/
def erf (argument : Dyadic) (precision : Nat) : Enclosure :=
  if squareAtLeast precision argument then Enclosure.justBelow 1 0 precision
  else
    let scale := precision + 16
    let (quotient, power) := overArgument argument scale
    ⟨argument.significand * quotient.low.toNat, argument.significand * quotient.high.toNat,
      argument.exponent + power - scale⟩

/-- The magnitude of the error function on a grid. -/
def bracket (argument : Dyadic) (scale : Nat) : Bracket :=
  let fine := scale + 8 + argument.top.toNat
  let (quotient, power) := overArgument argument fine
  ((quotient.timesInt argument.significand).shift (argument.exponent + power)).rescale fine scale

/-- Adds the terms of the asymptotic series after `term`, with alternating signs, until they are
below a unit. -/
def asymptoticSeries (scale : Nat) (reciprocal : Bracket) :
    Nat → Nat → Bracket → Bracket → Bracket
  | 0, _, _, sum => sum.widen 2
  | count + 1, odd, term, sum =>
    if -1 ≤ term.low ∧ term.high ≤ 1 then sum.widen 2
    else
      let next := ((Bracket.mul scale term reciprocal).timesInt odd).neg
      asymptoticSeries scale reciprocal count (odd + 2) next (sum.add next)

/-- The complementary error function of a number whose square exceeds the precision. -/
def erfcFar (argument : Dyadic) (precision : Nat) : Enclosure :=
  let scale := precision + 8
  let one := Bracket.ofInt scale 1
  let square := argument.square
  let reciprocal := Bracket.div scale one ((square.scale 1).bracket scale)
  let sum := asymptoticSeries scale reciprocal (2 * scale) 1 one one
  let (mantissa, power) := Exponential.bracket square.neg (scale + square.top.toNat)
  let mantissa := mantissa.rescale (scale + square.top.toNat) scale
  let unit : Dyadic := ⟨false, argument.significand, -(bitLength argument.significand : Int)⟩
  let value :=
    Bracket.div scale
      (Bracket.mul scale (Bracket.mul scale mantissa sum) (reciprocalRootPi scale))
      (unit.bracket scale)
  (value.toEnclosure scale).scale (power - argument.top)

/-- The complementary error function. -/
def erfc (argument : Dyadic) (precision : Nat) : Enclosure :=
  if argument.top + precision + 2 < 0 then
    if argument.negative then Enclosure.justAbove 1 0 precision
    else Enclosure.justBelow 1 0 precision
  else if squareAtLeast (precision + 16) argument then
    if argument.negative then Enclosure.justBelow 1 1 precision else erfcFar argument precision
  else
    let scale := precision + 16 + 2 * argument.square.floorMagnitude
    let one := Bracket.ofInt scale 1
    let value := bracket argument scale
    (if argument.negative then one.add value else one.sub value).toEnclosure scale

end LibmAudit.ErrorFunction
