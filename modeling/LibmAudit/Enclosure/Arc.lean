/-
**Inverse trigonometric functions.**

* `Arc.ofQuotient`: the angle of a point in the first quadrant, by halving the angle and the power
  series of the inverse tangent.
* `atan`, `asin`, `acos`, `atan2`: enclosures of the magnitudes, and `rightAngle`, `halfTurn` and
  their multiples for the arguments that lead to them.
-/

import LibmAudit.Enclosure.Constants
import LibmAudit.Enclosure.Dyadic

namespace LibmAudit.Arc

-- Powers are the built-in ones, whatever else is imported.
attribute [local instance (high)] instPowNat

/-- Halves an angle several times, given its tangent. -/
def halve (scale : Nat) : Nat → Bracket → Bracket
  | 0, tangent => tangent
  | count + 1, tangent =>
    let one := Bracket.ofInt scale 1
    let root := Bracket.sqrt scale (one.add (Bracket.square scale tangent))
    halve scale count (Bracket.div scale tangent (one.add root))

/-- Adds the terms of the power series of the inverse tangent from `term` on, a signed power of the
argument with the odd number `index`. -/
def series (scale : Nat) (square : Bracket) : Nat → Nat → Bracket → Bracket → Bracket
  | 0, _, _, sum => sum
  | count + 1, index, term, sum =>
    series scale square count (index + 2) (Bracket.mul scale term square).neg
      (sum.add (term.overNat index))

/-- The inverse tangent of numbers between zero and one. -/
def ofUnit (scale : Nat) (tangent : Bracket) : Bracket :=
  let halvings := floorRoot 2 scale / 2 + 2
  let fine := scale + 2 * halvings + 8
  let small := halve fine halvings (tangent.rescale scale fine)
  let terms := fine / (2 * (halvings - 1)) + 2
  let sum := series fine (Bracket.square fine small) terms 1 small ⟨0, 0⟩
  ((sum.widen 2).shift halvings).rescale fine scale

/-- The angle of a point with these coordinates, which are not negative and not both zero. -/
def ofQuotient (scale : Nat) (ordinate abscissa : Bracket) : Bracket :=
  if ordinate.high ≤ abscissa.high then ofUnit scale (Bracket.div scale ordinate abscissa)
  else ((Bracket.pi scale).shift (-1)).sub (ofUnit scale (Bracket.div scale abscissa ordinate))

/-! ## Multiples of a right angle -/

/-- A quarter turn. -/
def rightAngle (precision : Nat) : Enclosure :=
  ((Bracket.pi (precision + 4)).toEnclosure (precision + 4)).scale (-1)

/-- Half a turn. -/
def halfTurn (precision : Nat) : Enclosure :=
  (Bracket.pi (precision + 4)).toEnclosure (precision + 4)

/-- An eighth of a turn, or three eighths. -/
def diagonal (wide : Bool) (precision : Nat) : Enclosure :=
  (((Bracket.pi (precision + 4)).timesInt (if wide then 3 else 1)).toEnclosure
    (precision + 4)).scale (-2)

/-! ## Functions -/

/-- The grid for a result that is not much smaller than the argument. -/
def scaleFor (argument : Dyadic) (precision : Nat) : Nat :=
  precision + 8 + (-argument.top).toNat

/-- The magnitude of the inverse tangent. -/
def atan (argument : Dyadic) (precision : Nat) : Enclosure :=
  if 2 * argument.top + precision < 0 then
    Enclosure.justBelow argument.significand argument.exponent precision
  else
    let scale := scaleFor argument precision
    let one := Bracket.ofInt scale 1
    let angle :=
      if (scale : Int) < argument.top then
        ((Bracket.pi scale).shift (-1)).sub ⟨0, 1⟩
      else ofQuotient scale (argument.abs.bracket scale) one
    angle.toEnclosure scale

/-- The cosine of the angle with a sine between 0 and 1, or the other way round. -/
def cofactor (scale : Nat) (argument : Dyadic) : Bracket :=
  let (square, places) := argument.square.addInt (-1)
  Bracket.sqrt scale (Bracket.ofDyadic scale (-square) (-(places : Int)))

/-- The magnitude of the inverse sine of a number between -1 and 1. -/
def asin (argument : Dyadic) (precision : Nat) : Enclosure :=
  if 2 * argument.top + precision < 0 then
    Enclosure.justAbove argument.significand argument.exponent precision
  else
    let scale := scaleFor argument precision
    (ofQuotient scale (argument.abs.bracket scale) (cofactor scale argument)).toEnclosure scale

/-- The inverse cosine of a number between -1 and 1. -/
def acos (argument : Dyadic) (precision : Nat) : Enclosure :=
  let (gap, places) := argument.abs.addInt (-1)
  let scale := precision + 8 + (places - bitLength gap.natAbs)
  if argument.top + scale < 0 then
    (((Bracket.pi scale).shift (-1)).widen 1).toEnclosure scale
  else
    let angle := ofQuotient scale (cofactor scale argument) (argument.abs.bracket scale)
    (if argument.negative then (Bracket.pi scale).sub angle else angle).toEnclosure scale

/-- A quotient of magnitudes next to the inverse tangent of it. -/
def besideQuotient (ordinate abscissa : Dyadic) (precision : Nat) : Enclosure :=
  let shift := precision + bitLength abscissa.significand
  let scaled := ordinate.significand * 2 ^ shift
  let quotient := scaled / abscissa.significand
  let exact := scaled % abscissa.significand = 0
  ⟨quotient - 1, if exact then quotient else quotient + 1,
    ordinate.exponent - abscissa.exponent - shift⟩

/-- The magnitude of the angle of a point off the axes. -/
def atan2 (ordinate abscissa : Dyadic) (precision : Nat) : Enclosure :=
  let gap := ordinate.top - abscissa.top
  let scale := precision + 8 + (if abscissa.negative then 0 else (-gap).toNat)
  if !abscissa.negative ∧ 2 * gap + precision + bitLength ordinate.significand + 4 < 0 then
    besideQuotient ordinate abscissa precision
  else if gap + 1 + scale < 0 then ((Bracket.pi scale).sub ⟨0, 1⟩).toEnclosure scale
  else if (scale : Int) + 1 < gap then
    (((Bracket.pi scale).shift (-1)).widen 1).toEnclosure scale
  else
    let shift := ordinate.exponent - abscissa.exponent
    let up := ordinate.significand * 2 ^ shift.toNat
    let across := abscissa.significand * 2 ^ (-shift).toNat
    let one := Bracket.ofInt scale 1
    let angle :=
      if up ≤ across then ofQuotient scale (Bracket.ofRatio scale up across) one
      else ofQuotient scale one (Bracket.ofRatio scale across up)
    (if abscissa.negative then (Bracket.pi scale).sub angle else angle).toEnclosure scale

end LibmAudit.Arc
