/-
**Trigonometric functions.**

* `Trigonometric.reduce`: the argument modulo a quarter turn, and the number of quarter turns.
* `sin`, `cos`, `tan`: enclosures of the magnitudes; `isNegative` tells their signs, once the
  enclosure is narrow enough to exclude zero.
* `ofFraction`: the sine of a part of half a turn.
-/

import LibmAudit.Enclosure.Constants
import LibmAudit.Enclosure.Dyadic

namespace LibmAudit.Trigonometric

/-- Adds the terms of an alternating power series after `term`: each further term is the last one
times the square over two further integers, with the other sign. -/
def alternatingSeries (scale : Nat) (square : Bracket) : Nat → Nat → Bracket → Bracket → Bracket
  | 0, _, _, sum => sum
  | count + 1, index, term, sum =>
    let next := ((Bracket.mul scale term square).overNat ((index + 1) * (index + 2))).neg
    alternatingSeries scale square count (index + 2) next (sum.add next)

/-- How many terms are enough for arguments up to a quarter turn. -/
def termCount (scale : Nat) : Nat := scale / 4 + 4

/-- The sine of numbers up to a quarter turn. -/
def sinNear (scale : Nat) (argument : Bracket) : Bracket :=
  (alternatingSeries scale (Bracket.square scale argument) (termCount scale) 1 argument
    argument).widen 2

/-- The cosine of numbers up to a quarter turn. -/
def cosNear (scale : Nat) (argument : Bracket) : Bracket :=
  let one := Bracket.ofInt scale 1
  (alternatingSeries scale (Bracket.square scale argument) (termCount scale) 0 one one).widen 2

/-- The argument less the nearest multiple of a quarter turn, and the multiple. -/
def reduce (argument : Dyadic) (scale : Nat) : Bracket × Int :=
  let fine := scale + argument.top.toNat + 4
  let quarter := (Bracket.pi fine).shift (-1)
  let whole := argument.bracket fine
  let turns := (2 * whole.low + quarter.low) / (2 * quarter.low)
  ((whole.sub (quarter.timesInt turns)).rescale fine scale, turns)

/-- The sine of a number `turns` quarter turns beyond a reduced one. -/
def sinTurned (scale : Nat) (reduced : Bracket) (turns : Int) : Bracket :=
  let value := if turns % 2 = 0 then sinNear scale reduced else cosNear scale reduced
  if turns % 4 < 2 then value else value.neg

/-- The sine. -/
def sinBracket (argument : Dyadic) (scale : Nat) : Bracket :=
  let (reduced, turns) := reduce argument scale
  sinTurned scale reduced turns

/-- The cosine. -/
def cosBracket (argument : Dyadic) (scale : Nat) : Bracket :=
  let (reduced, turns) := reduce argument scale
  sinTurned scale reduced (turns + 1)

/-- The magnitudes of a bracket that does not hold zero, and a bracket down to zero otherwise. -/
def magnitude (bracket : Bracket) : Bracket :=
  if 0 ≤ bracket.low then bracket
  else if bracket.high ≤ 0 then bracket.neg
  else ⟨0, max (-bracket.low) bracket.high⟩

/-- The first sign, from ever narrower brackets, that excludes zero. -/
def isNegative (bracket : Nat → Bracket) : Nat → Nat → Bool
  | 0, _ => false
  | attempts + 1, scale =>
    let value := bracket scale
    if 0 < value.low then false
    else if value.high < 0 then true
    else isNegative bracket attempts (2 * scale)

/-- The grid for a result that is not much smaller than the argument. -/
def scaleFor (argument : Dyadic) (precision : Nat) : Nat :=
  precision + 8 + (-argument.top).toNat

/-- The magnitude of the sine. -/
def sin (argument : Dyadic) (precision : Nat) : Enclosure :=
  if 2 * argument.top + precision < 0 then
    Enclosure.justBelow argument.significand argument.exponent precision
  else
    let scale := scaleFor argument precision
    (magnitude (sinBracket argument scale)).toEnclosure scale

/-- The magnitude of the cosine. -/
def cos (argument : Dyadic) (precision : Nat) : Enclosure :=
  if 2 * argument.top + precision < 0 then Enclosure.justBelow 1 0 precision
  else
    let scale := precision + 8
    (magnitude (cosBracket argument scale)).toEnclosure scale

/-- The magnitude of the tangent. -/
def tan (argument : Dyadic) (precision : Nat) : Enclosure :=
  if 2 * argument.top + precision < 0 then
    Enclosure.justAbove argument.significand argument.exponent precision
  else
    let scale := scaleFor argument precision
    let (reduced, turns) := reduce argument scale
    let sine := magnitude (sinTurned scale reduced turns)
    let cosine := magnitude (sinTurned scale reduced (turns + 1))
    (Bracket.div scale sine cosine).toEnclosure scale

/-- Whether the sine is negative. -/
def sinIsNegative (argument : Dyadic) : Bool :=
  if argument.top < 2 then argument.negative else isNegative (sinBracket argument) 12 64

/-- Whether the cosine is negative. -/
def cosIsNegative (argument : Dyadic) : Bool :=
  if argument.top < 1 then false else isNegative (cosBracket argument) 12 64

/-- The sine of half a turn times a number between zero and one half. -/
def ofFraction (scale : Nat) (fraction : Dyadic) : Bracket :=
  let angle := Bracket.mul scale (Bracket.pi scale) (fraction.bracket scale)
  magnitude (sinTurned scale angle 0)

end LibmAudit.Trigonometric
