/-
**Results in exact arithmetic.**

* `Number`: an operand of a multiprecision operation.
* `Outcome`: what an operation gives before it is rounded; a magnitude is known by its leading
  digits, as many as one asks for.
* `Outcome.round`: the result with a given precision and mode, its distance from the exact one by
  sign, and the exceptions. Exponents are limited to `exponentLimit` on both sides.
-/

import LibmAudit.Enclosure.Dyadic
import LibmAudit.Flags
import LibmAudit.Mode

namespace LibmAudit

-- Powers are the built-in ones, whatever else is imported.
attribute [local instance (high)] instPowNat

/-- A multiprecision number. -/
inductive Number
  | nan
  | infinity (negative : Bool)
  | zero (negative : Bool)
  | finite (value : Dyadic)

/-- What an operation gives in exact arithmetic. -/
inductive Outcome
  /-- No number. -/
  | nan
  /-- An infinity, at a pole or from infinite operands. -/
  | infinity (negative pole : Bool)
  /-- A zero. -/
  | zero (negative : Bool)
  /-- The zero sum of opposite numbers; its sign depends on the mode. -/
  | cancelled
  /-- A number far beyond the exponent range. -/
  | vast (negative : Bool)
  /-- A nonzero number far below the exponent range. -/
  | minute (negative : Bool)
  /-- A nonzero number by its leading digits: a truncation either is exact or has that many bits. -/
  | magnitude (negative : Bool) (truncate : Nat → Truncation)

/-- A rounded result: the number, the sign of the rounding error, and the exceptions. -/
structure Evaluation where
  number : Number
  ternary : Int := 0
  flags : Flags := .none

/-- The limit on the exponents of multiprecision numbers, their leading digit after the point. -/
def exponentLimit : Int := 2 ^ (30 : Nat) - 1

namespace Truncation

/-- A number with a finite expansion. -/
def exact (significand : Nat) (exponent : Int) : Truncation := ⟨significand, exponent, false⟩

/-- The leading digits of a quotient times a power of two. -/
def ofRatio (numerator denominator : Nat) (exponent : Int) (digits : Nat) : Truncation :=
  let shift := digits + bitLength denominator + 1 - bitLength numerator
  let scaled := numerator * 2 ^ shift
  ⟨scaled / denominator, exponent - shift, scaled % denominator != 0⟩

/-- The leading digits of a root of `significand * 2 ^ exponent`. -/
def ofRoot (degree significand : Nat) (exponent : Int) (digits : Nat) : Truncation :=
  let least := degree * digits - bitLength significand
  let shift := least + ((exponent - least) % degree).toNat
  let scaled := significand * 2 ^ shift
  let root := floorRoot degree scaled
  ⟨root, (exponent - shift) / degree, root ^ degree != scaled⟩

end Truncation

namespace Outcome

/-- A dyadic number. -/
def exact (value : Dyadic) : Outcome :=
  .magnitude value.negative fun _ => Truncation.exact value.significand value.exponent

/-- A signed multiple of a power of two; zero if the multiple is. -/
def ofMultiple (multiple exponent : Int) (ifZero : Outcome) : Outcome :=
  if multiple = 0 then ifZero
  else exact ⟨decide (multiple < 0), multiple.natAbs, exponent⟩

/-- A positive number that is one of these, by its enclosures. -/
def enclosed (negative : Bool) (enclose : Nat → Enclosure) : Outcome :=
  .magnitude negative (refine enclose)

/-! ## Rounding -/

/-- The nonzero result with the smallest magnitude. -/
def leastMagnitude (negative : Bool) : Number := .finite ⟨negative, 1, -exponentLimit - 1⟩

/-- The finite result with the largest magnitude. -/
def greatestMagnitude (precision : Nat) (negative : Bool) : Number :=
  .finite ⟨negative, 2 ^ precision - 1, exponentLimit - precision⟩

/-- The sign of an error away from zero. -/
def outward (negative : Bool) : Int := if negative then -1 else 1

/-- A result beyond the exponent range. -/
def overflow (precision : Nat) (mode : Mode) (negative : Bool) : Evaluation :=
  let flags : Flags := { overflow := true, inexact := true }
  if mode.overflowsToInfinity negative then ⟨.infinity negative, outward negative, flags⟩
  else ⟨greatestMagnitude precision negative, -outward negative, flags⟩

/-- A result below the exponent range; `nearLeast` if it is nearer to the least magnitude than to
zero. -/
def underflow (mode : Mode) (negative nearLeast : Bool) : Evaluation :=
  let away :=
    match mode with
    | .nearestEven | .nearestAway => nearLeast
    | mode => mode.roundsAway negative 0 1 1 true
  if away then ⟨leastMagnitude negative, outward negative, .none⟩
  else ⟨.zero negative, -outward negative, .none⟩

/-- The mode in which a multiprecision result is rounded; ties away from zero are not offered. -/
def roundingOf (mode : Mode) : Mode :=
  match mode with
  | .nearestAway => .nearestEven
  | mode => mode

/-- Rounds leading digits to a precision; the ternary value is the sign of the error. -/
def roundTruncation (precision : Nat) (mode : Mode) (negative : Bool) (truncation : Truncation) :
    Evaluation :=
  let excess := bitLength truncation.significand - precision
  let kept := truncation.significand / 2 ^ excess
  let remainder := truncation.significand % 2 ^ excess
  let inexact := remainder != 0 || truncation.sticky
  let away :=
    inexact && (roundingOf mode).roundsAway negative kept remainder (2 ^ (excess - 1))
      truncation.sticky
  let value : Dyadic := ⟨negative, if away then kept + 1 else kept, truncation.exponent + excess⟩
  let error := if away then outward negative else if inexact then -outward negative else 0
  if exponentLimit < value.top then overflow precision mode negative
  else if value.top < -exponentLimit then
    let isLeastHalf := value.top + 1 = -exponentLimit
    let isAboveHalf := value.reduced.significand ≠ 1 ∨ (inexact ∧ !away)
    underflow mode negative (isLeastHalf ∧ isAboveHalf)
  else ⟨.finite value, error, .none⟩

/-- The result with a precision and mode. -/
def round (precision : Nat) (mode : Mode) : Outcome → Evaluation
  | .nan => { number := .nan, flags := { invalid := true } }
  | .infinity negative pole =>
    { number := .infinity negative, flags := { divideByZero := pole } }
  | .zero negative => { number := .zero negative }
  | .cancelled => { number := .zero (mode = .down) }
  | .vast negative => overflow precision mode negative
  | .minute negative => underflow mode negative false
  | .magnitude negative truncate =>
    roundTruncation precision mode negative (truncate (precision + 2))

end Outcome

end LibmAudit
