/-
**Reference routines on patterns.**

Routines that rearrange bits, round to integers or take numbers apart. They are exact in integer
arithmetic on patterns.

* `Reference.integral`: rounding to an integer.
* `fabs`, `copysign`, `fmax`, `fmin`, `nextafter`; `modf`, `frexp`, `ilogb`, `logb`, `significand`;
  `ldexp`, `scalb`.
-/

import LibmAudit.Format.Pattern
import LibmAudit.Library.Basic

namespace LibmAudit.Reference

-- Powers are the built-in ones, whatever else is imported.
attribute [local instance (high)] instPowNat

/-- The exceptions of an invalid operation. -/
def invalid : Flags := { invalid := true }

/-- The quiet NaN. -/
def nan (format : Format) (flags : Flags := .none) : Response :=
  .ofPattern (format.quietNaN false) flags

/-- A finite value that is not zero, as a sign, a magnitude and an exponent. -/
structure Parts where
  negative : Bool
  significand : Nat
  exponent : Int

/-- The parts of a finite value that is not zero. -/
def parts? (format : Format) (pattern : Nat) : Option Parts :=
  match format.scaled? pattern with
  | some (significand, exponent) =>
    if significand = 0 then none
    else some ⟨decide (significand < 0), significand.natAbs, exponent⟩
  | none => none

/-- The exponent of the leading digit. -/
def Parts.leading (parts : Parts) : Int := Format.leadingExponent parts.significand parts.exponent

/-! ## Sign and magnitude -/

/-- The magnitude. -/
def fabs (format : Format) (pattern : Nat) : Response :=
  .ofPattern (format.magnitudeField pattern)

/-- The magnitude of the first operand with the sign of the second. -/
def copysign (format : Format) (pattern sign : Nat) : Response :=
  .ofPattern (format.magnitudeField pattern + format.signBit (format.isNegative sign))

/-- The larger of two values or the smaller, with `-0` below `+0`; a single NaN is ignored. -/
def extremum (larger : Bool) (format : Format) (first second : Nat) : Response :=
  if format.isNaN first ∧ format.isNaN second then nan format
  else if format.isNaN first then .ofPattern second
  else if format.isNaN second then .ofPattern first
  else
    let ordinal := format.toOrdinal first
    let other := format.toOrdinal second
    let firstWins :=
      if ordinal = other then format.isNegative first != larger
      else decide (other < ordinal) == larger
    .ofPattern (if firstWins then first else second)

/-- The neighbour of the first value in the direction of the second. -/
def nextafter (format : Format) (first second : Nat) : Response :=
  if format.isNaN first ∨ format.isNaN second then nan format
  else
    let ordinal := format.toOrdinal first
    let other := format.toOrdinal second
    if ordinal = other then .ofPattern second
    else
      let next := format.ofOrdinal (if ordinal < other then ordinal + 1 else ordinal - 1)
      let flags : Flags :=
        if format.isInfinite next then { overflow := true, inexact := true }
        else if format.isSubnormal next || format.isZero next then
          { underflow := true, inexact := true }
        else .none
      .ofPattern next flags

/-! ## Rounding to integers -/

/-- Rounds a value to an integer in a mode, and tells whether that changes it. -/
def integral (format : Format) (mode : Mode) (pattern : Nat) : Nat × Bool :=
  match parts? format pattern with
  | none => (pattern, false)
  | some parts =>
    if 0 ≤ parts.exponent then (pattern, false)
    else
      let shift := (-parts.exponent).toNat
      let kept := parts.significand / 2 ^ shift
      let remainder := parts.significand % 2 ^ shift
      let away :=
        remainder != 0 &&
          mode.roundsAway parts.negative kept remainder (2 ^ (shift - 1) : Nat) false
      let rounded :=
        format.roundExact .nearestEven parts.negative (if away then kept + 1 else kept) 0
      (rounded.pattern, remainder != 0)

/-- A value rounded to an integer without an exception. -/
def toIntegral (mode : Mode) (format : Format) (pattern : Nat) : Response :=
  .ofPattern (integral format mode pattern).1

/-- A value rounded to an integer, inexact when that changes it. -/
def rint (format : Format) (mode : Mode) (pattern : Nat) : Response :=
  let (rounded, inexact) := integral format mode pattern
  .ofPattern rounded { inexact := inexact }

/-! ## Taking numbers apart -/

/-- The fractional and the integral part. -/
def modf (format : Format) (pattern : Nat) : Response :=
  let negative := format.isNegative pattern
  if format.isNaN pattern then
    ⟨[.float (format.quietNaN false), .float (format.quietNaN false)], .none⟩
  else
    let fraction :=
      match parts? format pattern with
      | none => format.zero negative
      | some parts =>
        if 0 ≤ parts.exponent then format.zero negative
        else
          (format.roundExact .nearestEven negative
            (parts.significand % 2 ^ (-parts.exponent).toNat) parts.exponent).pattern
    ⟨[.float fraction, .float (integral format .towardZero pattern).1], .none⟩

/-- The significand from one half to one, and the exponent. -/
def frexp (format : Format) (pattern : Nat) : Response :=
  match parts? format pattern with
  | none => ⟨[.float pattern, .int 0], .none⟩
  | some parts =>
    let exponent := parts.leading + 1
    let fraction :=
      format.roundExact .nearestEven parts.negative parts.significand (parts.exponent - exponent)
    ⟨[.float fraction.pattern, .int exponent], .none⟩

/-- What `ilogb` gives for zeros and NaNs. -/
def ilogbOfZero : Int := -2147483648

/-- What `ilogb` gives for infinities. -/
def ilogbOfInfinity : Int := 2147483647

/-- The exponent of the leading digit as an integer. -/
def ilogb (format : Format) (pattern : Nat) : Response :=
  match parts? format pattern with
  | some parts => ⟨[.int parts.leading], .none⟩
  | none =>
    let value := if format.isInfinite pattern then ilogbOfInfinity else ilogbOfZero
    ⟨[.int value], invalid⟩

/-- The exponent of the leading digit as a value of the format. -/
def logb (format : Format) (pattern : Nat) : Response :=
  match parts? format pattern with
  | some parts => .ofPattern (format.roundInteger .nearestEven parts.leading).pattern
  | none =>
    if format.isNaN pattern then nan format
    else if format.isInfinite pattern then .ofPattern (format.infinity false)
    else .ofPattern (format.infinity true) { divideByZero := true }

/-- The significand from one to two. -/
def significand (format : Format) (pattern : Nat) : Response :=
  match parts? format pattern with
  | none => .ofPattern pattern
  | some parts =>
    .ofPattern
      (format.roundExact .nearestEven parts.negative parts.significand
        (parts.exponent - parts.leading)).pattern

/-! ## Scaling -/

/-- A value times a power of two. -/
def ldexp (format : Format) (mode : Mode) (pattern : Nat) (power : Int) :
    Except Fault Response :=
  match parts? format pattern with
  | none => .ok (.ofPattern pattern)
  | some parts =>
    (format.round mode parts.negative parts.significand (parts.exponent + power) false).map
      .ofRounded

/-- The integer that a finite value stands for. -/
def integer? (format : Format) (pattern : Nat) : Option Int :=
  match format.scaled? pattern with
  | some (significand, exponent) =>
    if 0 ≤ exponent then some (significand * (2 ^ exponent.toNat : Nat))
    else if significand % (2 ^ (-exponent).toNat : Nat) = 0 then
      some (significand / (2 ^ (-exponent).toNat : Nat))
    else none
  | none => none

/-- A power of two beyond which every result has left the range of the format. -/
def scaleLimit (format : Format) : Int := 2 * (format.emax - format.floorExponent)

/-- A value times two to the power of another value, which must be an integer or infinite. -/
def scalb (format : Format) (mode : Mode) (first second : Nat) : Except Fault Response :=
  let negative := format.isNegative first
  if format.isNaN first ∨ format.isNaN second then .ok (nan format)
  else if format.isInfinite second then
    if format.isNegative second then
      if format.isInfinite first then .ok (nan format invalid)
      else .ok (.ofPattern (format.zero negative))
    else if format.isZero first then .ok (nan format invalid)
    else .ok (.ofPattern (format.infinity negative))
  else
    match integer? format second with
    | none => .ok (nan format invalid)
    | some power =>
      ldexp format mode first (max (-scaleLimit format) (min (scaleLimit format) power))

end LibmAudit.Reference
