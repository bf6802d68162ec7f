/-
**Exponentials and hyperbolic functions.**

All functions here take a nonzero dyadic argument and a precision, and give an enclosure whose width
is about one part in `2 ^ precision`.

* `Exponential.bracket`: the exponential as a bracket times a power of two, by reduction modulo
  `ln 2`, halving, the power series and squaring.
* `exp`, `exp2`, `expm1`, `sinh`, `cosh`, `tanh`. Where the argument is so small or so large that
  the result is next to a dyadic number, the enclosure is put beside that number.
-/

import LibmAudit.Enclosure.Constants
import LibmAudit.Enclosure.Dyadic

namespace LibmAudit.Exponential

-- Powers are the built-in ones, whatever else is imported.
attribute [local instance (high)] instPowNat

/-- Adds the terms of the power series of the exponential after `term`, which has number `index`. -/
def powerSeries (scale : Nat) (argument : Bracket) : Nat → Nat → Bracket → Bracket → Bracket
  | 0, _, _, sum => sum
  | count + 1, index, term, sum =>
    let next := (Bracket.mul scale term argument).overNat (index + 1)
    powerSeries scale argument count (index + 1) next (sum.add next)

/-- Squares a bracket several times. -/
def squareTimes (scale : Nat) : Nat → Bracket → Bracket
  | 0, bracket => bracket
  | count + 1, bracket => squareTimes scale count (Bracket.square scale bracket)

/-- The exponential of numbers between -1 and 1. -/
def ofUnit (scale : Nat) (argument : Bracket) : Bracket :=
  let halvings := floorRoot 2 scale + 1
  let fine := scale + 2 * halvings + 16
  let small := (argument.rescale scale fine).shift (-(halvings : Int))
  let one := Bracket.ofInt fine 1
  let sum := powerSeries fine small (fine / halvings + 2) 0 one one
  (squareTimes fine halvings (sum.widen 2)).rescale fine scale

/-- The exponential of a bracket as a bracket times a power of two. -/
def ofBracket (scale : Nat) (argument : Bracket) : Bracket × Int :=
  let unit : Int := (2 ^ scale : Nat)
  let turns :=
    if -unit ≤ 2 * argument.low ∧ 2 * argument.high ≤ unit then 0
    else (2 * argument.low + (Bracket.ln2 scale).low) / (2 * (Bracket.ln2 scale).low)
  let guard := bitLength turns.natAbs + 4
  let rest :=
    if turns = 0 then argument
    else argument.sub (((Bracket.ln2 (scale + guard)).timesInt turns).rescale (scale + guard) scale)
  (ofUnit scale rest, turns)

/-- The exponential as a bracket times a power of two. -/
def bracket (argument : Dyadic) (scale : Nat) : Bracket × Int :=
  ofBracket scale (argument.bracket scale)

/-- The exponential. -/
def exp (argument : Dyadic) (precision : Nat) : Enclosure :=
  if argument.top + precision < 0 then
    if argument.negative then Enclosure.justBelow 1 0 (precision - 1)
    else Enclosure.justAbove 1 0 (precision - 1)
  else
    let (mantissa, power) := bracket argument (precision + 8)
    (mantissa.toEnclosure (precision + 8)).scale power

/-- Two to the power of a number that is no integer. -/
def exp2 (argument : Dyadic) (precision : Nat) : Enclosure :=
  if argument.top + precision < 0 then
    if argument.negative then Enclosure.justBelow 1 0 (precision - 1)
    else Enclosure.justAbove 1 0 (precision - 1)
  else
    let scale := precision + 8 + argument.top.toNat
    let whole :=
      if argument.negative then -(argument.floorMagnitude : Int) else argument.floorMagnitude
    let fraction := (argument.bracket scale).sub (Bracket.ofInt scale whole)
    let (mantissa, power) := ofBracket scale (Bracket.mul scale fraction (Bracket.ln2 scale))
    (mantissa.toEnclosure scale).scale (power + whole)

/-- How many bits the difference of the exponential from its limit loses. -/
def lostBits (argument : Dyadic) : Nat := (-argument.top).toNat

/-- The magnitude of the exponential less one. -/
def expm1 (argument : Dyadic) (precision : Nat) : Enclosure :=
  if argument.top + precision < 0 then
    if argument.negative then
      Enclosure.justBelow argument.significand argument.exponent precision
    else Enclosure.justAbove argument.significand argument.exponent precision
  else if argument.negative ∧ bitLength precision + 1 < argument.top then
    Enclosure.justBelow 1 0 precision
  else
    let scale := precision + 8 + lostBits argument
    let (mantissa, power) := bracket argument scale
    if argument.negative then
      ((Bracket.ofInt scale 1).sub (mantissa.shift power)).toEnclosure scale
    else
      let one : Bracket :=
        if (scale : Int) < power then ⟨0, 1⟩ else (Bracket.ofInt scale 1).shift (-power)
      ((mantissa.sub one).toEnclosure scale).scale power

/-- The exponential of a magnitude and its reciprocal, both over the same power of two. -/
def withReciprocal (argument : Dyadic) (scale : Nat) : Bracket × Bracket × Int :=
  let (mantissa, power) := bracket argument.abs scale
  let reciprocal := Bracket.div scale (Bracket.ofInt scale 1) mantissa
  let lowered : Bracket :=
    if (scale : Int) + 2 < 2 * power then ⟨0, 1⟩ else reciprocal.shift (-2 * power)
  (mantissa, lowered, power)

/-- The magnitude of the hyperbolic sine. -/
def sinh (argument : Dyadic) (precision : Nat) : Enclosure :=
  if 2 * argument.top + precision < 0 then
    Enclosure.justAbove argument.significand argument.exponent precision
  else
    let scale := precision + 8 + lostBits argument
    let (grown, shrunk, power) := withReciprocal argument scale
    ((grown.sub shrunk).toEnclosure scale).scale (power - 1)

/-- The hyperbolic cosine. -/
def cosh (argument : Dyadic) (precision : Nat) : Enclosure :=
  if 2 * argument.top + precision < 0 then Enclosure.justAbove 1 0 precision
  else
    let scale := precision + 8
    let (grown, shrunk, power) := withReciprocal argument scale
    ((grown.add shrunk).toEnclosure scale).scale (power - 1)

/-- The magnitude of the hyperbolic tangent. -/
def tanh (argument : Dyadic) (precision : Nat) : Enclosure :=
  if 2 * argument.top + precision < 0 then
    Enclosure.justBelow argument.significand argument.exponent precision
  else if bitLength precision + 1 < argument.top then Enclosure.justBelow 1 0 precision
  else
    let scale := precision + 8 + lostBits argument
    let (grown, shrunk, _) := withReciprocal argument scale
    (Bracket.div scale (grown.sub shrunk) (grown.add shrunk)).toEnclosure scale

end LibmAudit.Exponential
