/-
**The reference library in an environment.**

The routines of the reference library as they run: each reads the rounding mode of the innermost
environment where it needs one, and raises exceptions there, some of them before it has all outputs.

* `Reference.finish`, `Reference.deliver`: the end of a routine.
* `Reference.performOperation`: a multiprecision operation. NaN operands end it before the mode is
  read.
* `Reference.perform`: a routine on operands.
-/

import LibmAudit.Environment.Action
import LibmAudit.Reference.Library

namespace LibmAudit.Reference

/-- Raises exceptions and gives one output. -/
def finish (pattern : Nat) (flags : Flags := .none) : Action Nat := do
  Action.raise flags
  return pattern

/-- Raises the exceptions of a response and gives its outputs. -/
def deliver (response : Response) : Action (List SlotValue) := do
  Action.raise response.flags
  return response.outputs

/-- A multiprecision operation on patterns as one output. -/
def performOperation (operation : Operation) (format : Format) (signedByMode : Bool)
    (patterns : List Nat) : Action Nat :=
  if anyNaN format patterns then finish (format.quietNaN false)
  else do
    let mode ← Action.mode
    let rounded ← Action.ofExcept (operation.evaluateInto format mode signedByMode patterns)
    finish rounded.pattern rounded.flags

/-- A multiprecision operation that is all of a routine. -/
def performAlone (operation : Operation) (format : Format) (signedByMode : Bool)
    (patterns : List Nat) : Action (List SlotValue) := do
  let pattern ← performOperation operation format signedByMode patterns
  return [.float pattern]

/-- The sine, and after it the cosine. -/
def performSincos (format : Format) (pattern : Nat) : Action (List SlotValue) := do
  let sine ← performOperation .sin format false [pattern]
  let cosine ← performOperation .cos format false [pattern]
  return [.float sine, .float cosine]

/-- The logarithm of the magnitude of the gamma function, and after it the sign of that function. -/
def performLgamma (format : Format) (pattern : Nat) : Action (List SlotValue) := do
  if format.isNaN pattern then
    return [.float (← finish (format.quietNaN false)), .int 1]
  else
    let value ← performOperation .lgamma format false [pattern]
    return [.float value, .int (gammaSign format pattern)]

/-- The positive difference. -/
def performFdim (format : Format) (first second : Nat) : Action (List SlotValue) :=
  if format.isNaN first ∨ format.isNaN second then deliver (nan format)
  else if format.toOrdinal second < format.toOrdinal first then
    performAlone .sub format false [first, second]
  else deliver (.ofPattern (format.zero false))

/-- The root of a sum of squares; an infinity wins over a NaN. -/
def performHypot (format : Format) (first second : Nat) : Action (List SlotValue) :=
  if format.isInfinite first ∨ format.isInfinite second then
    deliver (.ofPattern (format.infinity false))
  else performAlone .hypot format false [first, second]

/-- The power; to the zeroth power everything is one, and so is every power of one. -/
def performPow (format : Format) (first second : Nat) : Action (List SlotValue) :=
  if format.isZero second ∨ first = one format then deliver (.ofPattern (one format))
  else performAlone .pow format false [first, second]

/-- A routine with one float operand. -/
def performUnary (routine : Routine) (format : Format) (pattern : Nat) :
    Action (List SlotValue) :=
  match routine with
  | .fabs => deliver (fabs format pattern)
  | .ceil => deliver (toIntegral .up format pattern)
  | .floor => deliver (toIntegral .down format pattern)
  | .trunc => deliver (toIntegral .towardZero format pattern)
  | .round => deliver (toIntegral .nearestAway format pattern)
  | .rint => do deliver (rint format (← Action.mode) pattern)
  | .nearbyint => do deliver (toIntegral (← Action.mode) format pattern)
  | .modf => deliver (modf format pattern)
  | .frexp => deliver (frexp format pattern)
  | .ilogb => deliver (ilogb format pattern)
  | .logb => deliver (logb format pattern)
  | .significand => deliver (significand format pattern)
  | .sincos => performSincos format pattern
  | .lgamma_r => performLgamma format pattern
  | routine => throw (.noReference routine.name)

/-- A routine with two float operands. -/
def performBinary (routine : Routine) (format : Format) (first second : Nat) :
    Action (List SlotValue) :=
  match routine with
  | .copysign => deliver (copysign format first second)
  | .fmax => deliver (extremum true format first second)
  | .fmin => deliver (extremum false format first second)
  | .fdim => performFdim format first second
  | .nextafter => deliver (nextafter format first second)
  | .scalb => do
    deliver (← Action.ofExcept (scalb format (← Action.mode) first second))
  | .remquo => do deliver (← Action.ofExcept (remquo format first second))
  | .hypot => performHypot format first second
  | .pow => performPow format first second
  | routine => throw (.noReference routine.name)

/-- A routine on operands of its shape. A routine that is a multiprecision operation takes any
number of floats, which the operation refuses unless one of them is a NaN. -/
def perform (routine : Routine) (format : Format) (operands : List SlotValue) :
    Action (List SlotValue) :=
  match operation? routine, operands with
  | some operator, operands => performAlone operator format false (patternsOf operands)
  | none, [.float pattern] => performUnary routine format pattern
  | none, [.float first, .float second] => performBinary routine format first second
  | none, [.float first, .float second, .float third] =>
    performAlone .fma format true [first, second, third]
  | none, [.float pattern, .int power] => do
    deliver (← Action.ofExcept (ldexp format (← Action.mode) pattern power))
  | none, _ => throw (.noReference routine.name)

end LibmAudit.Reference
