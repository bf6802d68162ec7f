/-
**Patterns as multiprecision numbers.**

* `Number.read`, `Number.ofPattern`: the number of a pattern, exactly.
* `Number.toPattern`: rounds a number into a format; with `sticky` its magnitude is a little more.
* `Operation.evaluateInto`: an operation on patterns, rounded once. The multiprecision result is cut
  toward zero with two bits more than the format has, and the error of that is the sticky bit.
-/

import LibmAudit.Format.Round
import LibmAudit.Multiprecision.Operands

namespace LibmAudit

-- Powers are the built-in ones, whatever else is imported.
attribute [local instance (high)] instPowNat

namespace Number

/-- The number of a pattern, whatever its exponent. -/
def read (format : Format) (pattern : Int) : Number :=
  let negative := format.isNegative pattern
  if format.isNaN pattern then .nan
  else
    match format.scaled? pattern with
    | none => .infinity negative
    | some (significand, exponent) =>
      if significand = 0 then .zero negative
      else .finite ⟨negative, significand.natAbs, exponent⟩

/-- Whether an integer, a power of two and their product are in the exponent range. -/
def isInRange (value : Dyadic) : Bool :=
  decide ((bitLength value.significand : Int) ≤ exponentLimit ∧
    -exponentLimit ≤ value.exponent + 1 ∧ value.exponent < exponentLimit ∧
    value.top ≤ exponentLimit)

/-- The number of a pattern; it must be in the exponent range. -/
def ofPattern (format : Format) (pattern : Int) : Except Fault Number :=
  match read format pattern with
  | .finite value => if isInRange value then .ok (.finite value) else .error .resultInexact
  | number => .ok number

/-- A finite magnitude with two bits more than the format at least. -/
def widened (format : Format) (value : Dyadic) : Dyadic :=
  let missing := format.precision + 2 - bitLength value.significand
  ⟨value.negative, value.significand * 2 ^ missing, value.exponent - missing⟩

/-- A finite magnitude without trailing zeros, but with two bits more than the format at least. -/
def padded (format : Format) (value : Dyadic) : Dyadic := widened format value.reduced

/-- The pattern of a number in a format, rounded in a mode. `precision` is that of the number. -/
def toPattern (format : Format) (mode : Mode) (number : Number) (sticky : Bool) (precision : Nat) :
    Except Fault Rounded :=
  match number with
  | nan => .ok ⟨format.quietNaN false, .none⟩
  | infinity negative => .ok ⟨format.infinity negative, .none⟩
  | zero negative =>
    if sticky then .error (.inexactZero negative precision)
    else .ok ⟨format.zero negative, .none⟩
  | finite value =>
    let wide := padded format value
    format.round mode wide.negative wide.significand wide.exponent sticky

end Number

/-- The numbers of several patterns. -/
def numbersOf (format : Format) : List Nat → Except Fault (List Number)
  | [] => .ok []
  | pattern :: rest => do
    let number ← Number.ofPattern format pattern
    return number :: (← numbersOf format rest)

namespace Operation

/-- The multiprecision result of an operation on patterns, before it is rounded into the format. -/
def evaluateOn (operation : Operation) (format : Format) (mode : Mode) (patterns : List Nat) :
    Except Fault Evaluation := do
  let numbers ← numbersOf format patterns
  operation.checkCount numbers.length
  return operation.evaluate (format.precision + 2) mode numbers

/-- The least number that is no machine integer. -/
def integerLimit : Int := 9223372036854775808

/-- How far the largest precision is below that. -/
def precisionReserve : Int := 257

/-- The number of bits in which results with a precision are computed. -/
def workingBits (precision : Int) : Except Fault Nat :=
  let bits := precision + 2
  if bits < -integerLimit ∨ integerLimit ≤ bits then .error .precisionTooLarge
  else if bits < 1 ∨ integerLimit - precisionReserve < bits then .error .precisionOutOfRange
  else .ok bits.toNat

/-- The multiprecision result of an operation with two bits more than a precision. -/
def compute (operation : Operation) (precision : Int) (mode : Mode) (numbers : List Number) :
    Except Fault Evaluation := do
  let bits ← workingBits precision
  operation.checkCount numbers.length
  return operation.evaluate bits mode numbers

/-- Rounds a multiprecision result into a format, with the exceptions of both steps. -/
def finish (format : Format) (mode : Mode) (result : Evaluation) : Except Fault Rounded := do
  let rounded ←
    result.number.toPattern format mode (result.ternary != 0) (format.precision + 2)
  return ⟨rounded.pattern, result.flags.union rounded.flags⟩

/-- An operation on patterns that are no NaNs, rounded into the format in a mode. An exact zero sum
has the sign that the mode gives it, if `signedByMode` asks for that. -/
def evaluateInto (operation : Operation) (format : Format) (mode : Mode) (signedByMode : Bool)
    (patterns : List Nat) : Except Fault Rounded := do
  let result ← operation.evaluateOn format .towardZero patterns
  let result ←
    match signedByMode, result.number with
    | true, .zero _ => do
      let again ← operation.evaluateOn format mode patterns
      pure { again with flags := result.flags }
    | _, _ => pure result
  finish format mode result

end Operation

end LibmAudit
