/-
**The routines of the mathematical library.**

* `Routine`: the catalog, in the order of the catalog numbers.
* `Shape`: what a routine takes and returns; results that go out through pointers are further
  outputs.
* `Routine.category`, `isSignPreserving`, `isModeSensitive`: what the C standard says about the
  results.
* `Routine.parse`: the routine with a name, without regard to blanks around it and to case.
-/

import LibmAudit.Format.Named

namespace LibmAudit

/-- The kind of an operand or an output. -/
inductive Slot
  | float
  | int
deriving DecidableEq, Repr

/-- The name of a kind. -/
def Slot.name : Slot → String
  | float => "FLOAT"
  | int => "INT"

/-- The calling conventions. -/
inductive Shape
  | unary
  | binary
  | ternary
  | scale
  | unaryPair
  | unaryWithInt
  | binaryWithInt
  | toInt
deriving DecidableEq, Repr

namespace Shape

/-- The kinds of the operands. -/
def inputs : Shape → List Slot
  | unary | unaryPair | unaryWithInt | toInt => [.float]
  | binary | binaryWithInt => [.float, .float]
  | ternary => [.float, .float, .float]
  | scale => [.float, .int]

/-- The kinds of the outputs. -/
def outputs : Shape → List Slot
  | unary | binary | ternary | scale => [.float]
  | unaryPair => [.float, .float]
  | unaryWithInt | binaryWithInt => [.float, .int]
  | toInt => [.int]

/-- The number of operands. -/
def arity (shape : Shape) : Nat := shape.inputs.length

/-- The number of entries in a table row: the outputs, then the operands. -/
def width (shape : Shape) : Nat := shape.inputs.length + shape.outputs.length

/-- The name of a calling convention. -/
def name : Shape → String
  | unary => "UNARY"
  | binary => "BINARY"
  | ternary => "TERNARY"
  | scale => "SCALE"
  | unaryPair => "UNARY_PAIR"
  | unaryWithInt => "UNARY_WITH_INT"
  | binaryWithInt => "BINARY_WITH_INT"
  | toInt => "TO_INT"

end Shape

/-- How hard the results of a routine are to compute. -/
inductive Difficulty
  | exact
  | transcendental
  | hyperbolic
  | gamma
deriving DecidableEq, Repr

namespace Difficulty

/-- The name of a difficulty. -/
def name : Difficulty → String
  | exact => "EXACT"
  | transcendental => "TRANSCENDENTAL"
  | hyperbolic => "HYPERBOLIC"
  | gamma => "GAMMA"

/-- The distance that is accepted by default. -/
def maxUlps : Difficulty → Nat
  | exact => 0
  | transcendental => 1
  | hyperbolic => 2
  | gamma => 2

end Difficulty

/-- A routine of the mathematical library. -/
inductive Routine
  | acos | acosh | asin | asinh | atan | atan2 | atanh | cbrt | ceil | copysign | cos | cosh | erf
  | erfc | exp | exp2 | expm1 | fabs | fdim | floor | fma | fmax | fmin | fmod | frexp | hypot
  | ilogb | ldexp | lgamma | lgamma_r | log | log10 | log1p | log2 | logb | modf | nearbyint
  | nextafter | pow | remainder | remquo | rint | round | scalb | scalbn | significand | sin
  | sincos | sinh | sqrt | tan | tanh | tgamma | trunc
deriving DecidableEq, Repr

namespace Routine

/-- The catalog: every routine with its name, in the order of the numbers. -/
def catalog : List (Routine × String) := [
  (acos, "acos"), (acosh, "acosh"), (asin, "asin"), (asinh, "asinh"), (atan, "atan"),
  (atan2, "atan2"), (atanh, "atanh"), (cbrt, "cbrt"), (ceil, "ceil"), (copysign, "copysign"),
  (cos, "cos"), (cosh, "cosh"), (erf, "erf"), (erfc, "erfc"), (exp, "exp"), (exp2, "exp2"),
  (expm1, "expm1"), (fabs, "fabs"), (fdim, "fdim"), (floor, "floor"), (fma, "fma"),
  (fmax, "fmax"), (fmin, "fmin"), (fmod, "fmod"), (frexp, "frexp"), (hypot, "hypot"),
  (ilogb, "ilogb"), (ldexp, "ldexp"), (lgamma, "lgamma"), (lgamma_r, "lgamma_r"), (log, "log"),
  (log10, "log10"), (log1p, "log1p"), (log2, "log2"), (logb, "logb"), (modf, "modf"),
  (nearbyint, "nearbyint"), (nextafter, "nextafter"), (pow, "pow"), (remainder, "remainder"),
  (remquo, "remquo"), (rint, "rint"), (round, "round"), (scalb, "scalb"), (scalbn, "scalbn"),
  (significand, "significand"), (sin, "sin"), (sincos, "sincos"), (sinh, "sinh"), (sqrt, "sqrt"),
  (tan, "tan"), (tanh, "tanh"), (tgamma, "tgamma"), (trunc, "trunc")]

/-- All routines, in the order of the catalog. -/
def all : List Routine := catalog.map (·.1)

/-- The name of a routine. -/
def name (routine : Routine) : String := (catalog.lookup routine).getD ""

/-- The place of a routine in the catalog. -/
def number (routine : Routine) : Nat := all.idxOf routine

/-- The routine with exactly this name. -/
def ofName? (name : String) : Option Routine :=
  (catalog.find? fun entry => entry.2 = name).map (·.1)

/-- The routine that a datum names. -/
def parse (name : Datum) : Except Fault Routine := do
  match ofName? (← name.toName) with
  | some routine => return routine
  | none => throw (.unknownFunction name)

/-- The calling convention. -/
def shape : Routine → Shape
  | atan2 | copysign | fdim | fmax | fmin | fmod | hypot | nextafter | pow | remainder | scalb =>
    .binary
  | fma => .ternary
  | ldexp | scalbn => .scale
  | modf | sincos => .unaryPair
  | frexp | lgamma_r => .unaryWithInt
  | remquo => .binaryWithInt
  | ilogb => .toInt
  | _ => .unary

/-- How hard the results are to compute. -/
def category : Routine → Difficulty
  | ceil | copysign | fabs | fdim | floor | fma | fmax | fmin | fmod | frexp | ilogb | ldexp | logb
  | modf | nearbyint | nextafter | remainder | remquo | rint | round | scalb | scalbn | significand
  | sqrt | trunc => .exact
  | acosh | asinh | atan2 | atanh | cosh | sinh | tanh => .hyperbolic
  | lgamma | lgamma_r | tgamma => .gamma
  | _ => .transcendental

/-- Whether the standard specifies the sign of a zero result. -/
def isSignPreserving : Routine → Bool
  | asin | asinh | atan | atan2 | atanh | cbrt | ceil | copysign | erf | expm1 | fabs | floor | fma
  | fmod | frexp | ldexp | log1p | modf | nearbyint | nextafter | pow | remainder | remquo | rint
  | round | scalb | scalbn | significand | sin | sincos | sinh | sqrt | tan | tanh | trunc => true
  | _ => false

/-- Whether results depend on the rounding mode. -/
def isModeSensitive (routine : Routine) : Bool :=
  routine.category != .exact ||
    [fdim, fma, ldexp, nearbyint, rint, scalb, scalbn, sqrt].contains routine

/-- The order of the catalog. -/
def le (first second : Routine) : Bool := first.number ≤ second.number

/-- Whether an output of this number exists; every output is checked by default. -/
def checksOutput (routine : Routine) (index : Int) : Except Fault Bool :=
  let outputs := routine.shape.outputs.length
  if index < 0 ∨ outputs ≤ index then refuse (.noSuchOutput routine.name outputs index)
  else .ok true

end Routine

end LibmAudit
