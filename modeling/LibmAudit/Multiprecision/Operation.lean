/-
**Multiprecision operations.**

* `Operation`: the operations that are available, with their names.
* `Operation.apply`: the exact outcome for given operands.
* `Operation.evaluate`: the result with a precision and mode.
-/

import LibmAudit.Multiprecision.Elementary
import LibmAudit.Multiprecision.Special

namespace LibmAudit

/-- A multiprecision operation. -/
inductive Operation
  | acos | acosh | asin | asinh | atan | atan2 | atanh | cbrt | cos | cosh | erf | erfc | exp | exp2
  | expm1 | fmod | lgamma | log | log10 | log1p | log2 | remainder | sin | sinh | sqrt | tan | tanh
  | tgamma | add | sub | mul | div | fma | hypot | pow
deriving DecidableEq, Repr

namespace Operation

/-- The operations with their names. -/
def table : List (String × Operation) := [
  ("acos", acos), ("acosh", acosh), ("asin", asin), ("asinh", asinh), ("atan", atan),
  ("atan2", atan2), ("atanh", atanh), ("cbrt", cbrt), ("cos", cos), ("cosh", cosh), ("erf", erf),
  ("erfc", erfc), ("exp", exp), ("exp2", exp2), ("expm1", expm1), ("fmod", fmod),
  ("lgamma", lgamma), ("log", log), ("log10", log10), ("log1p", log1p), ("log2", log2),
  ("remainder", remainder), ("sin", sin), ("sinh", sinh), ("sqrt", sqrt), ("tan", tan),
  ("tanh", tanh), ("tgamma", tgamma), ("add", add), ("sub", sub), ("mul", mul), ("div", div),
  ("fma", fma), ("hypot", hypot), ("pow", pow)]

/-- The operations that are not the whole of a routine. -/
def arithmetic : List Operation := [add, sub, mul, div, fma, hypot, pow]

/-- The function of an operation with one operand. -/
def unary? : Operation → Option (Number → Outcome)
  | acos => some Number.acos
  | acosh => some Number.acosh
  | asin => some Number.asin
  | asinh => some Number.asinh
  | atan => some Number.atan
  | atanh => some Number.atanh
  | cbrt => some Number.cbrt
  | cos => some Number.cos
  | cosh => some Number.cosh
  | erf => some Number.erf
  | erfc => some Number.erfc
  | exp => some Number.exp
  | exp2 => some Number.exp2
  | expm1 => some Number.expm1
  | lgamma => some Number.lgamma
  | log => some Number.log
  | log10 => some Number.log10
  | log1p => some Number.log1p
  | log2 => some Number.log2
  | sin => some Number.sin
  | sinh => some Number.sinh
  | sqrt => some Number.sqrt
  | tan => some Number.tan
  | tanh => some Number.tanh
  | tgamma => some Number.tgamma
  | _ => none

/-- The function of an operation with two operands. -/
def binary? : Operation → Option (Number → Number → Outcome)
  | atan2 => some Number.atan2
  | fmod => some Number.fmod
  | remainder => some Number.remainder
  | add => some Number.add
  | sub => some Number.sub
  | mul => some Number.mul
  | div => some Number.div
  | hypot => some Number.hypot
  | pow => some Number.pow
  | _ => none

/-- The exact outcome for given operands; with a wrong number of them there is none. -/
def apply (operation : Operation) : List Number → Outcome
  | [first] =>
    match operation.unary? with
    | some function => function first
    | none => .nan
  | [first, second] =>
    match operation.binary? with
    | some function => function first second
    | none => .nan
  | [first, second, third] =>
    match operation with
    | fma => Number.fma first second third
    | _ => .nan
  | _ => .nan

/-- The result with a precision and mode. -/
def evaluate (operation : Operation) (precision : Nat) (mode : Mode) (operands : List Number) :
    Evaluation :=
  (operation.apply operands).round precision mode

end Operation

end LibmAudit
