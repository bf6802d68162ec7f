/-
**The shortest decimal of a binary value.**

* `shortest`: of the decimals that round to a binary value, one with the fewest digits, and of those
  the nearest to it. The decimals that round to `significand * 2 ^ exponent` lie within half a place
  of it, a quarter below a power of two; the two ends belong to them when the significand is even.
* `writePositional`, `writeScientific`: a decimal without and with an exponent.
-/

import LibmAudit.Binary

namespace LibmAudit.Decimal

-- Powers are the built-in ones, whatever else is imported.
attribute [local instance (high)] instPowNat

/-- Where a grid of decimals meets a binary value: `scale` and `unit` turn a multiple of the grid
and a number of quarter places into integers that compare as their values do. -/
structure Grid where
  scale : Nat
  unit : Nat

/-- The grid of multiples of `10 ^ power` against quarter places `2 ^ (exponent - 2)`. -/
def Grid.of (power exponent : Int) : Grid where
  scale := 10 ^ power.toNat * 2 ^ (2 - exponent).toNat
  unit := 10 ^ (-power).toNat * 2 ^ (exponent - 2).toNat

/-- The best multiple of the grid that rounds to the value, if there is one. -/
def Grid.hit? (grid : Grid) (significand : Nat) (closeBelow : Bool) : Option Nat :=
  let value := 4 * significand * grid.unit
  let least := (4 * significand - (if closeBelow then 1 else 2)) * grid.unit
  let greatest := (4 * significand + 2) * grid.unit
  let holds (multiple : Nat) : Bool :=
    let point := multiple * grid.scale
    0 < multiple && (if significand % 2 = 0 then least ≤ point && point ≤ greatest
      else least < point && point < greatest)
  let below := value / grid.scale
  let above := below + 1
  match holds below, holds above with
  | true, true =>
    let gapBelow := value - below * grid.scale
    let gapAbove := above * grid.scale - value
    if gapBelow < gapAbove ∨ (gapBelow = gapAbove ∧ below % 2 = 0) then some below else some above
  | true, false => some below
  | false, true => some above
  | false, false => none

/-- The best decimal on the first of the grids `10 ^ power`, `10 ^ (power - 1)` and so on that has
one. -/
def firstHit (significand : Nat) (exponent : Int) (closeBelow : Bool) :
    Nat → Int → Nat × Int
  | 0, power => (0, power)
  | fuel + 1, power =>
    match (Grid.of power exponent).hit? significand closeBelow with
    | some multiple => (multiple, power)
    | none => firstHit significand exponent closeBelow fuel (power - 1)

/-- The shortest decimal, as digits and a power of ten, of `significand * 2 ^ exponent`. With
`closeBelow` the neighbour below is half as far away as the one above. -/
def shortest (significand : Nat) (exponent : Int) (closeBelow : Bool) : Nat × Int :=
  let magnitude : Int := (bitLength significand : Int) + exponent
  let power := magnitude * 30103 / 100000 + 2
  firstHit significand exponent closeBelow (bitLength significand + 10) power

/-- An exponent with its sign and at least two digits. -/
def exponentText (exponent : Int) : String :=
  (if exponent < 0 then "-" else "+") ++ padZeros 2 (toString exponent.natAbs)

/-- A positive decimal without an exponent, with at least one digit on each side of the point. -/
def writePositional (digits : Nat) (power : Int) : String :=
  let shown := toString digits
  if 0 ≤ power then shown ++ String.ofList (List.replicate power.toNat '0') ++ ".0"
  else
    let places := (-power).toNat
    let padded := padZeros (places + 1) shown
    let whole := padded.length - places
    String.ofList (padded.toList.take whole) ++ "." ++ String.ofList (padded.toList.drop whole)

/-- A positive decimal with one digit before the point and an exponent. -/
def writeScientific (digits : Nat) (power : Int) : String :=
  let shown := (toString digits).toList
  let exponent := power + (shown.length : Int) - 1
  String.ofList (shown.take 1) ++
    (if shown.length = 1 then "" else "." ++ String.ofList (shown.drop 1)) ++ "e" ++
    exponentText exponent

/-- The power of ten of the first digit of a decimal. -/
def leadingPower (digits : Nat) (power : Int) : Int :=
  power + ((toString digits).length : Int) - 1

end LibmAudit.Decimal
