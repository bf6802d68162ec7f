/-
**The reference library.**

Every routine, correctly rounded in the mode of the environment, with the exceptions that an ideal
implementation raises. Routines that are not exact on patterns go through multiprecision operations.

* `Reference.operation`: the routine by a multiprecision operation: NaN operands give a NaN without
  an exception.
* `Reference.call`: a routine on operands. The response depends on the operands and the mode alone.
* `Reference.lookup`: whether the library has a routine for a format.
-/

import LibmAudit.Multiprecision.Pattern
import LibmAudit.Reference.Exact

namespace LibmAudit.Reference

-- Powers are the built-in ones, whatever else is imported.
attribute [local instance (high)] instPowNat

/-- Whether one of several patterns is a NaN. -/
def anyNaN (format : Format) (patterns : List Nat) : Bool :=
  patterns.any fun pattern => format.isNaN pattern

/-- A multiprecision operation on patterns as one output. -/
def operationPattern (operation : Operation) (format : Format) (mode : Mode) (signedByMode : Bool)
    (patterns : List Nat) : Except Fault Rounded :=
  if anyNaN format patterns then .ok ⟨format.quietNaN false, .none⟩
  else operation.evaluateInto format mode signedByMode patterns

/-- A multiprecision operation on patterns. -/
def operation (operation : Operation) (format : Format) (mode : Mode) (patterns : List Nat) :
    Except Fault Response :=
  (operationPattern operation format mode false patterns).map .ofRounded

/-- The positive difference. -/
def fdim (format : Format) (mode : Mode) (first second : Nat) : Except Fault Response :=
  if format.isNaN first ∨ format.isNaN second then .ok (nan format)
  else if format.toOrdinal second < format.toOrdinal first then
    operation .sub format mode [first, second]
  else .ok (.ofPattern (format.zero false))

/-- The root of a sum of squares; an infinity wins over a NaN. -/
def hypot (format : Format) (mode : Mode) (first second : Nat) : Except Fault Response :=
  if format.isInfinite first ∨ format.isInfinite second then
    .ok (.ofPattern (format.infinity false))
  else operation .hypot format mode [first, second]

/-- The pattern of one. -/
def one (format : Format) : Nat := (format.roundInteger .nearestEven 1).pattern

/-- The power; to the zeroth power everything is one, and so is every power of one. -/
def pow (format : Format) (mode : Mode) (first second : Nat) : Except Fault Response :=
  if format.isZero second ∨ first = one format then .ok (.ofPattern (one format))
  else operation .pow format mode [first, second]

/-- The product of two operands plus a third one, rounded once. -/
def fma (format : Format) (mode : Mode) (patterns : List Nat) : Except Fault Response :=
  (operationPattern .fma format mode true patterns).map .ofRounded

/-- The remainder of the quotient rounded to nearest even, and the quotient. -/
def remquo (format : Format) (first second : Nat) : Except Fault Response :=
  if anyNaN format [first, second] then
    .ok ⟨[.float (format.quietNaN false), .int 0], .none⟩
  else do
    let dividend ← Number.ofPattern format first
    let divisor ← Number.ofPattern format second
    let result := (dividend.remainder divisor).round (format.precision + 2) .towardZero
    match result.number with
    | .nan =>
      return ⟨[.float (format.quietNaN false), .int 0], result.flags.union invalid⟩
    | number =>
      let rounded ← number.toPattern format .nearestEven false (format.precision + 2)
      return ⟨[.float rounded.pattern, .int (dividend.quotient divisor)],
        result.flags.union rounded.flags⟩

/-- The sine and the cosine. -/
def sincos (format : Format) (mode : Mode) (pattern : Nat) : Except Fault Response := do
  let sine ← operationPattern .sin format mode false [pattern]
  let cosine ← operationPattern .cos format mode false [pattern]
  return ⟨[.float sine.pattern, .float cosine.pattern], sine.flags.union cosine.flags⟩

/-- The sign of the gamma function: negative at `-0`, and below zero between an even integer and the
next one below it. -/
def gammaSign (format : Format) (pattern : Nat) : Int :=
  if format.isNaN pattern ∨ !format.isNegative pattern then 1
  else if format.isZero pattern then -1
  else
    match parts? format pattern with
    | none => 1
    | some parts =>
      let places := (-parts.exponent).toNat
      if 0 ≤ parts.exponent ∨ parts.significand % 2 ^ places = 0 then 1
      else if parts.significand / 2 ^ places % 2 = 0 then -1
      else 1

/-- The logarithm of the magnitude of the gamma function, and the sign of that function. -/
def lgammaWithSign (format : Format) (mode : Mode) (pattern : Nat) : Except Fault Response := do
  let rounded ← operationPattern .lgamma format mode false [pattern]
  return ⟨[.float rounded.pattern, .int (gammaSign format pattern)], rounded.flags⟩

/-- The multiprecision operation that a routine is, if it is nothing more. -/
def operation? : Routine → Option Operation
  | .acos => some .acos
  | .acosh => some .acosh
  | .asin => some .asin
  | .asinh => some .asinh
  | .atan => some .atan
  | .atan2 => some .atan2
  | .atanh => some .atanh
  | .cbrt => some .cbrt
  | .cos => some .cos
  | .cosh => some .cosh
  | .erf => some .erf
  | .erfc => some .erfc
  | .exp => some .exp
  | .exp2 => some .exp2
  | .expm1 => some .expm1
  | .fmod => some .fmod
  | .lgamma => some .lgamma
  | .log => some .log
  | .log10 => some .log10
  | .log1p => some .log1p
  | .log2 => some .log2
  | .remainder => some .remainder
  | .sin => some .sin
  | .sinh => some .sinh
  | .sqrt => some .sqrt
  | .tan => some .tan
  | .tanh => some .tanh
  | .tgamma => some .tgamma
  | _ => none

/-- The multiprecision operation that a datum names: one of arithmetic, or that of a routine. -/
def parseOperation (name : Datum) : Except Fault Operation :=
  let named (operation : Operation) : Bool := name.isText operation.name
  match Operation.arithmetic.find? named with
  | some operation => .ok operation
  | none => do
    let routine ← Routine.parse name
    match operation? routine with
    | some operation => return operation
    | none => throw (.noOperation routine.name routine.number)

/-- A routine with one float operand. -/
def callUnary (routine : Routine) (format : Format) (mode : Mode) (pattern : Nat) :
    Except Fault Response :=
  match routine with
  | .fabs => .ok (fabs format pattern)
  | .ceil => .ok (toIntegral .up format pattern)
  | .floor => .ok (toIntegral .down format pattern)
  | .trunc => .ok (toIntegral .towardZero format pattern)
  | .round => .ok (toIntegral .nearestAway format pattern)
  | .rint => .ok (rint format mode pattern)
  | .nearbyint => .ok (toIntegral mode format pattern)
  | .modf => .ok (modf format pattern)
  | .frexp => .ok (frexp format pattern)
  | .ilogb => .ok (ilogb format pattern)
  | .logb => .ok (logb format pattern)
  | .significand => .ok (significand format pattern)
  | .sincos => sincos format mode pattern
  | .lgamma_r => lgammaWithSign format mode pattern
  | routine => .error (.noReference routine.name)

/-- A routine with two float operands. -/
def callBinary (routine : Routine) (format : Format) (mode : Mode) (first second : Nat) :
    Except Fault Response :=
  match routine with
  | .copysign => .ok (copysign format first second)
  | .fmax => .ok (extremum true format first second)
  | .fmin => .ok (extremum false format first second)
  | .fdim => fdim format mode first second
  | .nextafter => .ok (nextafter format first second)
  | .scalb => scalb format mode first second
  | .remquo => remquo format first second
  | .hypot => hypot format mode first second
  | .pow => pow format mode first second
  | routine => .error (.noReference routine.name)

/-- The patterns of float operands. -/
def patternsOf (operands : List SlotValue) : List Nat :=
  operands.filterMap fun
    | .float pattern => some pattern
    | .int _ => none

/-- A routine on operands of its shape. A routine that is a multiprecision operation takes any
number of floats, which the operation refuses unless one of them is a NaN. -/
def call (routine : Routine) (format : Format) (mode : Mode) (operands : List SlotValue) :
    Except Fault Response :=
  match operation? routine, operands with
  | some operator, operands => operation operator format mode (patternsOf operands)
  | none, [.float pattern] => callUnary routine format mode pattern
  | none, [.float first, .float second] => callBinary routine format mode first second
  | none, [.float first, .float second, .float third] => fma format mode [first, second, third]
  | none, [.float pattern, .int power] => ldexp format mode pattern power
  | none, _ => .error (.noReference routine.name)

/-- The library has every routine, for the formats of machine types. -/
def lookup (format : Format) : Except Fault Unit :=
  if format.carrier?.isSome then .ok () else .error (.noTypeForValues format.name)

end LibmAudit.Reference
