/-
**The native library.**

Routines on the numbers of a machine type, rounded to nearest even whatever the environment says.
Machine functions are taken to be correctly rounded. The special functions and the fused
multiplication are computed in the 64-bit format, and their results are converted from it.

* `Native.ofDouble`: a number of the 64-bit format in another one.
* `Native.gammaSign`: the sign of the gamma function, from the integer below its argument.
* `Native.fma`: the fused multiplication, which refuses some operands.
* `Native.lookup`: whether the library has a routine for a format.
* `Native.call`: a routine on operands.
-/

import LibmAudit.Native.Remainder
import LibmAudit.Reference.Library
import LibmAudit.Value.Conversion

namespace LibmAudit.Native

-- Powers are the built-in ones, whatever else is imported.
attribute [local instance (high)] instPowNat

/-! ## Exact routines -/

/-- The positive difference. -/
def fdim (format : Format) (first second : Nat) : Response :=
  if format.isNaN first ∨ format.isNaN second then .ofPattern (format.quietNaN false)
  else if above format first second then .ofRounded (sub format first second)
  else .ofPattern (format.zero false)

/-- The larger of two values or the smaller; a single NaN is ignored. -/
def extremum (larger : Bool) (format : Format) (first second : Nat) : Response :=
  if format.isNaN first then .ofPattern second
  else if format.isNaN second then .ofPattern first
  else
    .ofPattern (if atLeast format first second = larger ∨
      format.toOrdinal first = format.toOrdinal second then first else second)

/-- The neighbour of a value that is neither a NaN nor equal to the other one. A zero keeps the sign
of the value. -/
def neighbour (format : Format) (first second : Nat) : Nat :=
  let upward := above format second first
  if format.isZero first then format.minSubnormal (!upward)
  else if format.isNegative first = upward then first - 1
  else first + 1

/-- The neighbour of the first value in the direction of the second. The 16-bit type tells neither
underflow nor a signaling NaN. -/
def nextafter (format : Format) (first second : Nat) : Response :=
  if format.isNaN first ∨ format.isNaN second then
    .ofPattern (format.quietNaN false)
      (if format = Format.half then .none else signals format [first, second])
  else if format.toOrdinal first = format.toOrdinal second then .ofPattern second
  else
    let next := neighbour format first second
    let tiny := format.isSubnormal next || format.isZero next
    .ofPattern next
      { overflow := format.isInfinite next && format.isFinite first
        underflow := tiny && format != Format.half }

/-- The nearest integer, halves away from zero, by way of the integer part. -/
def round (format : Format) (pattern : Nat) : Response :=
  let whole := (Reference.integral format .towardZero pattern).1
  let difference := sub format pattern whole
  let flags := if format.isNaN pattern then signals format [pattern] else difference.flags
  if format.isNaN difference.pattern then .ofPattern whole flags
  else if atLeast format (magnitude format difference.pattern) (half format) then
    let sum := add format whole (withSign format (format.isNegative pattern) (integer format 1))
    .ofPattern sum.pattern (flags.union sum.flags)
  else .ofPattern whole flags

/-- The response of an exact routine that reads its operand as a number. -/
def reading (format : Format) (pattern : Nat) (response : Response) : Response :=
  { response with flags := signals format [pattern] }

/-- The exponent of a value whose significand is from one half to one. -/
def machineExponent (format : Format) (pattern : Nat) : Int :=
  match Reference.parts? format pattern with
  | none => 0
  | some parts => parts.leading + 1

/-- The exponent of the leading digit as an integer. -/
def ilogb (format : Format) (pattern : Nat) : Int :=
  if format.isNaN pattern then Reference.ilogbOfZero
  else if format.isInfinite pattern then Reference.ilogbOfInfinity
  else if format.isZero pattern then Reference.ilogbOfZero
  else machineExponent format pattern - 1

/-- The exponent of the leading digit as a value of the format. -/
def logb (format : Format) (pattern : Nat) : Nat :=
  if format.isNaN pattern then pattern
  else if format.isInfinite pattern then magnitude format pattern
  else if format.isZero pattern then format.infinity true
  else (format.roundInteger .nearestEven (machineExponent format pattern - 1)).pattern

/-- The machine's scaling by a power of two. -/
def scale (format : Format) (pattern : Nat) (power : Int) : Response :=
  match Reference.parts? format pattern with
  | none => .ofPattern pattern (signals format [pattern])
  | some parts =>
    let rounded :=
      format.roundExact .nearestEven parts.negative parts.significand (parts.exponent + power)
    .ofPattern rounded.pattern rounded.flags.exceptInexact

/-- The significand from one to two: the value scaled by its own exponent. -/
def significand (format : Format) (pattern : Nat) : Response :=
  if format.isNaN pattern ∨ format.isInfinite pattern ∨ format.isZero pattern then
    .ofPattern pattern
  else scale format pattern (-ilogb format pattern)

/-- Scale factors beyond this saturate every format. -/
def scaleLimit : Int := 100000

/-- A scale factor within the limit. -/
def clampScale (power : Int) : Int := max (-scaleLimit) (min scaleLimit power)

/-- A value times a power of two. -/
def ldexp (format : Format) (pattern : Nat) (power : Int) : Response :=
  scale format pattern (clampScale power)

/-- A value times two to the power of another value, which must be an integer or infinite. -/
def scalb (format : Format) (first second : Nat) : Response :=
  let negative := format.isNegative first
  let nan : Response := .ofPattern (format.quietNaN false)
  if format.isNaN first ∨ format.isNaN second then nan
  else if format.isInfinite second then
    let below := format.isNegative second
    if below && format.isInfinite first || !below && format.isZero first then nan
    else if below then .ofPattern (format.zero negative)
    else .ofPattern (format.infinity negative)
  else
    match Reference.integer? format second with
    | none => nan
    | some power => ldexp format first (clampScale power)

/-! ## Functions -/

/-- A machine function of numbers: quiet NaN operands give a NaN without an exception. -/
def machine (operation : Operation) (format : Format) (patterns : List Nat) : Rounded :=
  if Reference.anyNaN format patterns then ⟨format.quietNaN false, signals format patterns⟩
  else
    let numbers := patterns.map fun (pattern : Nat) => Number.read format pattern
    ofOutcome format (operation.apply numbers)

/-- The power; to the zeroth power everything is one, and so is every power of one. -/
def pow (format : Format) (first second : Nat) : Rounded :=
  if format.isZero second ∨ first = integer format 1 then ⟨integer format 1, .none⟩
  else machine .pow format [first, second]

/-- The root of a sum of squares; an infinity wins over a NaN. -/
def hypot (format : Format) (first second : Nat) : Rounded :=
  if format.isInfinite first ∨ format.isInfinite second then ⟨format.infinity false, .none⟩
  else machine .hypot format [first, second]

/-- A pattern of a machine type as a pattern of the 64-bit format. -/
def toDouble (format : Format) (pattern : Nat) : Nat :=
  match format.carrier? with
  | some carrier => carrier.convert .double pattern
  | none => pattern

/-- A pattern of the 64-bit format as a pattern of a machine type. All that is told is that a finite
number overflows. -/
def ofDouble (format : Format) (wide : Nat) : Rounded :=
  let pattern :=
    match format.carrier? with
    | some carrier => Carrier.double.convert carrier wide
    | none => wide
  ⟨pattern, { overflow := Format.double.isFinite wide && format.isInfinite pattern }⟩

/-- A special function, rounded in the 64-bit format and then into the format of its operand. -/
def special (operation : Operation) (format : Format) (pattern : Nat) : Rounded :=
  if format.isNaN pattern then ⟨format.quietNaN false, .none⟩
  else
    let outcome := operation.apply [Number.read format pattern]
    ofDouble format (ofOutcome Format.double outcome).pattern

/-- The product of two operands plus a third one, rounded once in the 64-bit format. A NaN that comes
from no NaN is refused, and so is an infinity that comes from finite operands. -/
def fma (format : Format) (first second third : Nat) : Except Fault Response :=
  let operands := [first, second, third].map (toDouble format)
  let result := (machine .fma Format.double operands).pattern
  if Format.double.isNaN result ∧ ¬ Reference.anyNaN Format.double operands then
    .error .fmaInvalid
  else if Format.double.isInfinite result ∧
      operands.all fun operand => Format.double.isFinite operand then
    .error .fmaOverflow
  else .ok (.ofRounded (ofDouble format result))

/-- The greatest integer that is not above a finite value. -/
def floor? (format : Format) (pattern : Nat) : Option Int :=
  (format.scaled? pattern).map fun (significand, place) =>
    if 0 ≤ place then significand * (2 ^ place.toNat : Nat)
    else significand / (2 ^ (-place).toNat : Nat)

/-- The sign of the gamma function: that of a zero is its own, and a number below zero that is no
integer has a negative one just if the integer below it is odd. -/
def gammaSign (format : Format) (pattern : Nat) : Int :=
  let wide := toDouble format pattern
  let negative := Format.double.isNegative wide
  if Format.double.isZero wide then if negative then -1 else 1
  else
    match floor? Format.double wide with
    | none => 1
    | some below =>
      if negative ∧ Reference.integer? Format.double wide = none then
        if below % 2 = 1 then -1 else 1
      else 1

/-- The routines that are computed in the 64-bit format. -/
def isDoubleOnly (routine : Routine) : Bool :=
  [.erf, .erfc, .fma, .lgamma, .lgamma_r, .tgamma].contains routine

/-! ## Calls -/

/-- A routine with one float operand. -/
def callUnary (routine : Routine) (format : Format) (pattern : Nat) : Response :=
  match routine with
  | .fabs => Reference.fabs format pattern
  | .ceil => reading format pattern (Reference.toIntegral .up format pattern)
  | .floor => reading format pattern (Reference.toIntegral .down format pattern)
  | .trunc => reading format pattern (Reference.toIntegral .towardZero format pattern)
  | .rint | .nearbyint =>
    reading format pattern (Reference.toIntegral .nearestEven format pattern)
  | .round => round format pattern
  | .modf => reading format pattern (Reference.modf format pattern)
  | .frexp => reading format pattern (Reference.frexp format pattern)
  | .ilogb => ⟨[.int (ilogb format pattern)], .none⟩
  | .logb => .ofPattern (logb format pattern)
  | .significand => significand format pattern
  | .sincos =>
    let sine := machine .sin format [pattern]
    let cosine := machine .cos format [pattern]
    ⟨[.float sine.pattern, .float cosine.pattern], sine.flags.union cosine.flags⟩
  | .lgamma_r =>
    let rounded := special .lgamma format pattern
    ⟨[.float rounded.pattern, .int (gammaSign format pattern)], rounded.flags⟩
  | routine =>
    match Reference.operation? routine with
    | some operation =>
      .ofRounded
        (if isDoubleOnly routine then special operation format pattern
        else machine operation format [pattern])
    | none => ⟨[], .none⟩

/-- A routine with two float operands. -/
def callBinary (routine : Routine) (format : Format) (first second : Nat) : Response :=
  match routine with
  | .copysign => Reference.copysign format first second
  | .fmax => extremum true format first second
  | .fmin => extremum false format first second
  | .fdim => fdim format first second
  | .nextafter => nextafter format first second
  | .scalb => scalb format first second
  | .remainder =>
    let (rest, _, flags) := remquo format first second
    .ofPattern rest flags
  | .remquo =>
    let (rest, quotient, flags) := remquo format first second
    ⟨[.float rest, .int quotient], flags⟩
  | .hypot => .ofRounded (hypot format first second)
  | .pow => .ofRounded (pow format first second)
  | routine =>
    match Reference.operation? routine with
    | some operation => .ofRounded (machine operation format [first, second])
    | none => ⟨[], .none⟩

/-- A routine on operands of its shape. -/
def call (routine : Routine) (format : Format) (operands : List SlotValue) :
    Except Fault Response :=
  match operands with
  | [.float pattern] => .ok (callUnary routine format pattern)
  | [.float first, .float second] => .ok (callBinary routine format first second)
  | [.float pattern, .int power] => .ok (ldexp format pattern power)
  | [.float first, .float second, .float third] => fma format first second third
  | _ => .ok ⟨[], .none⟩

/-- The library has the special functions up to the 64-bit format, and the fused multiplication in
formats of its precision alone, if the runtime offers one. -/
def lookup (fused : Bool) (routine : Routine) (format : Format) : Except Fault Unit :=
  if format.carrier?.isNone then .error (.noNativeType format.name)
  else if isDoubleOnly routine && 53 < format.precision then
    .error (.doubleOnly routine.name format.name)
  else if routine = .fma ∧ (format.precision ≠ 53 ∨ !fused) then
    .error (.fmaUnavailable format.name)
  else .ok ()

end LibmAudit.Native
