/-
**Brackets on a binary grid.**

A bracket holds two integers `low` and `high`; on the grid of a scale it encloses the real numbers
from `low / 2 ^ scale` to `high / 2 ^ scale`. All operations round outwards.

* `Bracket.add`, `sub`, `mul`, `div`, `sqrt`: arithmetic on one grid.
* `Bracket.ofDyadic`, `ofRatio`: brackets of given numbers.
* `Bracket.rescale`: from one grid to another.
* `Bracket.toEnclosure`: a bracket of a positive number as an enclosure.
-/

import LibmAudit.Enclosure.Basic
import LibmAudit.Enclosure.Root

namespace LibmAudit

-- Powers are the built-in ones, whatever else is imported.
attribute [local instance (high)] instPowNat

/-- Two ends of a range of numbers, in units of a grid. -/
structure Bracket where
  low : Int
  high : Int

/-- The least integer that is at least a quotient. -/
def ceilDiv (numerator denominator : Int) : Int :=
  -((-numerator) / denominator)

namespace Bracket

/-- An integer. -/
def ofInt (scale : Nat) (value : Int) : Bracket :=
  ⟨value * (2 ^ scale : Nat), value * (2 ^ scale : Nat)⟩

/-- The bracket times a power of two, on the same grid. -/
def shift (power : Int) (bracket : Bracket) : Bracket :=
  if 0 ≤ power then
    ⟨bracket.low * (2 ^ power.toNat : Nat), bracket.high * (2 ^ power.toNat : Nat)⟩
  else
    ⟨bracket.low / (2 ^ (-power).toNat : Nat), ceilDiv bracket.high (2 ^ (-power).toNat : Nat)⟩

/-- The same numbers on another grid. -/
def rescale (fromScale toScale : Nat) (bracket : Bracket) : Bracket :=
  bracket.shift ((toScale : Int) - fromScale)

/-- The number `significand * 2 ^ exponent`. -/
def ofDyadic (scale : Nat) (significand exponent : Int) : Bracket :=
  shift (exponent + scale) ⟨significand, significand⟩

/-- A quotient by a positive number. -/
def ofRatio (scale : Nat) (numerator denominator : Int) : Bracket :=
  ⟨numerator * (2 ^ scale : Nat) / denominator,
    ceilDiv (numerator * (2 ^ scale : Nat)) denominator⟩

/-- A bracket with a margin on both sides. -/
def widen (margin : Nat) (bracket : Bracket) : Bracket :=
  ⟨bracket.low - margin, bracket.high + margin⟩

/-- The sums. -/
def add (first second : Bracket) : Bracket :=
  ⟨first.low + second.low, first.high + second.high⟩

/-- The negated numbers. -/
def neg (bracket : Bracket) : Bracket :=
  ⟨-bracket.high, -bracket.low⟩

/-- The differences. -/
def sub (first second : Bracket) : Bracket :=
  first.add second.neg

/-- The products with an integer. -/
def timesInt (factor : Int) (bracket : Bracket) : Bracket :=
  if 0 ≤ factor then ⟨factor * bracket.low, factor * bracket.high⟩
  else ⟨factor * bracket.high, factor * bracket.low⟩

/-- The quotients by a positive integer. -/
def overNat (divisor : Nat) (bracket : Bracket) : Bracket :=
  ⟨bracket.low / (divisor : Int), ceilDiv bracket.high divisor⟩

/-- The products. -/
def mul (scale : Nat) (first second : Bracket) : Bracket :=
  let unit : Int := (2 ^ scale : Nat)
  if 0 ≤ first.low ∧ 0 ≤ second.low then
    ⟨first.low * second.low / unit, ceilDiv (first.high * second.high) unit⟩
  else
    let corners := [first.low * second.high, first.high * second.low, first.high * second.high]
    let corner := first.low * second.low
    ⟨corners.foldl min corner / unit, ceilDiv (corners.foldl max corner) unit⟩

/-- The squares. -/
def square (scale : Nat) (bracket : Bracket) : Bracket :=
  let magnitude : Bracket :=
    if 0 ≤ bracket.low then bracket
    else if bracket.high ≤ 0 then bracket.neg
    else ⟨0, max (-bracket.low) bracket.high⟩
  mul scale magnitude magnitude

/-- The quotients by positive numbers. -/
def div (scale : Nat) (first second : Bracket) : Bracket :=
  let unit : Int := (2 ^ scale : Nat)
  let least := max 1 second.low
  let greatest := max 1 second.high
  ⟨first.low * unit / (if 0 ≤ first.low then greatest else least),
    ceilDiv (first.high * unit) (if 0 ≤ first.high then least else greatest)⟩

/-- The square roots; what is negative counts as zero. -/
def sqrt (scale : Nat) (bracket : Bracket) : Bracket :=
  ⟨floorRoot 2 (bracket.low.toNat * 2 ^ scale), floorRoot 2 (bracket.high.toNat * 2 ^ scale) + 1⟩

/-- A bracket of a positive number as an enclosure. -/
def toEnclosure (scale : Nat) (bracket : Bracket) : Enclosure :=
  ⟨bracket.low.toNat, bracket.high.toNat, -(scale : Int)⟩

end Bracket

end LibmAudit
