/-
**Logarithms and inverse hyperbolic functions.**

* `Logarithm.bracket`: the natural logarithm of an enclosed number, by reduction to a neighbourhood
  of one and the series of the inverse hyperbolic tangent.
* `log`, `log2`, `log10`, `log1p`, `asinh`, `acosh`, `atanh`: enclosures of the magnitudes.
-/

import LibmAudit.Enclosure.Constants
import LibmAudit.Enclosure.Dyadic

namespace LibmAudit.Logarithm

-- Powers are the built-in ones, whatever else is imported.
attribute [local instance (high)] instPowNat

/-- Adds the terms of the series of the inverse hyperbolic tangent from `term` on, a power of the
argument with the odd number `index`. -/
def tangentSeries (scale : Nat) (square : Bracket) : Nat → Nat → Bracket → Bracket → Bracket
  | 0, _, _, sum => sum
  | count + 1, index, term, sum =>
    tangentSeries scale square count (index + 2) (Bracket.mul scale term square)
      (sum.add (term.overNat index))

/-- The logarithm of numbers between two thirds and four thirds. -/
def nearOne (scale : Nat) (argument : Bracket) : Bracket :=
  let one := Bracket.ofInt scale 1
  let ratio (value : Int) : Bracket :=
    Bracket.ofRatio scale (value - one.low) (value + one.low)
  let argument : Bracket := ⟨(ratio argument.low).low, (ratio argument.high).high⟩
  let sum := tangentSeries scale (Bracket.square scale argument) (scale / 4 + 2) 1 argument ⟨0, 0⟩
  (sum.widen 2).timesInt 2

/-- The logarithm of an enclosed number that is not zero. -/
def bracket (scale : Nat) (argument : Enclosure) : Bracket :=
  let width := bitLength argument.low
  let below : Nat := if 3 * argument.low < 2 ^ (width + 1) then 1 else 0
  let power : Int := argument.exponent + width - below
  let fine := scale + 8
  let place := argument.exponent - power
  let mantissa : Bracket :=
    ⟨(Bracket.ofDyadic fine argument.low place).low,
      (Bracket.ofDyadic fine argument.high place).high⟩
  let rest := nearOne fine mantissa
  if power = 0 then rest.rescale fine scale
  else
    let guard := bitLength power.natAbs
    (rest.add (((Bracket.ln2 (fine + guard)).timesInt power).rescale (fine + guard) fine)).rescale
      fine scale

/-- A dyadic number as an enclosure without width. -/
def exactly (argument : Dyadic) : Enclosure :=
  ⟨argument.significand, argument.significand, argument.exponent⟩

/-- How many bits the logarithm of a positive number loses when the number is near one. -/
def lostBits (argument : Dyadic) : Nat :=
  if argument.top = 0 ∨ argument.top = 1 then
    let (difference, places) := argument.addInt (-1)
    places - bitLength difference.natAbs
  else 0

/-- The magnitude of a bracket that does not hold zero. -/
def magnitude (bracket : Bracket) : Bracket :=
  if bracket.high ≤ 0 then bracket.neg else bracket

/-- The magnitude of the logarithm of a positive number other than one. -/
def log (argument : Dyadic) (precision : Nat) : Enclosure :=
  let scale := precision + 8 + lostBits argument
  (magnitude (bracket scale (exactly argument))).toEnclosure scale

/-- The magnitude of the logarithm to a base, given by the logarithm of the base on any grid. -/
def logBase (base : Nat → Bracket) (argument : Dyadic) (precision : Nat) : Enclosure :=
  let scale := precision + 8 + lostBits argument
  (Bracket.div scale (magnitude (bracket scale (exactly argument))) (base scale)).toEnclosure scale

/-- The magnitude of the binary logarithm. -/
def log2 : Dyadic → Nat → Enclosure := logBase Bracket.ln2

/-- The magnitude of the decimal logarithm. -/
def log10 : Dyadic → Nat → Enclosure :=
  logBase fun scale => bracket scale (exactly ⟨false, 10, 0⟩)

/-- The magnitude of the logarithm of one more than a number above -1. -/
def log1p (argument : Dyadic) (precision : Nat) : Enclosure :=
  if argument.top + precision < 0 then
    if argument.negative then
      Enclosure.justAbove argument.significand argument.exponent precision
    else Enclosure.justBelow argument.significand argument.exponent precision
  else if (precision : Int) ≤ argument.exponent then
    let scale := precision + 8
    (bracket scale
      (Enclosure.justAbove argument.significand argument.exponent precision)).toEnclosure scale
  else
    let (multiple, places) := argument.addInt 1
    log (Dyadic.ofMultiple multiple places) precision

/-- A number whose square is next to it and one: the magnitude plus the root of the square plus or
minus one, for a magnitude beyond half the precision. -/
def doubled (above : Bool) (argument : Dyadic) (precision : Nat) : Enclosure :=
  let twice := argument.exponent + 1
  if above then Enclosure.justAbove argument.significand twice precision
  else Enclosure.justBelow argument.significand twice precision

/-- The magnitude of the inverse hyperbolic sine. -/
def asinh (argument : Dyadic) (precision : Nat) : Enclosure :=
  if 2 * argument.top + precision < 0 then
    Enclosure.justBelow argument.significand argument.exponent precision
  else
    let scale := precision + 8 + (-argument.top).toNat
    if (scale : Int) + 2 < 2 * argument.top then
      (bracket scale (doubled true argument scale)).toEnclosure scale
    else
      let fine := scale + 8
      let (square, places) := argument.square.addInt 1
      let root := Bracket.sqrt fine (Bracket.ofDyadic fine square (-(places : Int)))
      (bracket scale (((argument.abs.bracket fine).add root).toEnclosure fine)).toEnclosure scale

/-- The inverse hyperbolic cosine of a number above one. -/
def acosh (argument : Dyadic) (precision : Nat) : Enclosure :=
  let scale := precision + 8 + lostBits argument
  if (scale : Int) + 2 < 2 * argument.top then
    (bracket scale (doubled false argument scale)).toEnclosure scale
  else
    let fine := 2 * scale + 8
    let (square, places) := argument.square.addInt (-1)
    let root := Bracket.sqrt fine (Bracket.ofDyadic fine square (-(places : Int)))
    (bracket scale (((argument.bracket fine).add root).toEnclosure fine)).toEnclosure scale

/-- The magnitude of the inverse hyperbolic tangent of a number between -1 and 1. -/
def atanh (argument : Dyadic) (precision : Nat) : Enclosure :=
  if 2 * argument.top + precision < 0 then
    Enclosure.justAbove argument.significand argument.exponent precision
  else
    let scale := precision + 8 + (-argument.top).toNat
    let fine := scale + 8
    let (above, _) := argument.abs.addInt 1
    let (below, _) := argument.abs.neg.addInt 1
    let ratio := Bracket.ofRatio fine above below
    ((bracket scale (ratio.toEnclosure fine)).toEnclosure scale).scale (-1)

end LibmAudit.Logarithm
