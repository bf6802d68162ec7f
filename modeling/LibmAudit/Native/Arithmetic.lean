/-
**Machine arithmetic.**

Operations of the machine round to nearest even whatever the environment says, and never tell that a
result is inexact.

* `Native.ofOutcome`: the value of a format nearest to an exact outcome, with its exceptions.
* `Native.signals`: the exception of a NaN that signals when it is read.
* `Native.add`, `sub`, `mul`, `fmod`: operations on patterns.
-/

import LibmAudit.Multiprecision.Pattern

namespace LibmAudit.Native

-- Powers are the built-in ones, whatever else is imported.
attribute [local instance (high)] instPowNat

/-- The nearest value to a magnitude known by its leading digits. -/
def nearest (format : Format) (negative : Bool) (truncation : Truncation) : Rounded :=
  let missing := format.precision + 2 - bitLength truncation.significand
  format.roundAt .nearestEven negative (truncation.significand * 2 ^ missing)
    (truncation.exponent - missing) truncation.sticky

/-- The nearest value to an exact outcome. -/
def ofOutcome (format : Format) (outcome : Outcome) : Rounded :=
  match outcome with
  | .nan => ⟨format.quietNaN false, { invalid := true }⟩
  | .infinity negative pole => ⟨format.infinity negative, { divideByZero := pole }⟩
  | .zero negative => ⟨format.zero negative, .none⟩
  | .cancelled => ⟨format.zero false, .none⟩
  | .vast negative => ⟨format.infinity negative, { overflow := true }⟩
  | .minute negative => ⟨format.zero negative, { underflow := true }⟩
  | .magnitude negative truncate =>
    let rounded := nearest format negative (truncate (format.precision + 2))
    { rounded with flags := rounded.flags.exceptInexact }

/-- Whether a pattern is a NaN without the top fraction bit. -/
def isSignaling (format : Format) (pattern : Nat) : Bool :=
  format.isNaN pattern && format.fractionField pattern < 2 ^ (format.fractionBits - 1)

/-- What reading NaNs without the top fraction bit raises. -/
def signals (format : Format) (patterns : List Nat) : Flags :=
  { invalid := patterns.any (isSignaling format) }

/-- The sum of two patterns. -/
def add (format : Format) (first second : Nat) : Rounded :=
  ofOutcome format ((Number.read format first).add (Number.read format second))

/-- The difference of two patterns. -/
def sub (format : Format) (first second : Nat) : Rounded :=
  ofOutcome format ((Number.read format first).sub (Number.read format second))

/-- The product of two patterns. -/
def mul (format : Format) (first second : Nat) : Rounded :=
  ofOutcome format ((Number.read format first).mul (Number.read format second))

/-- The remainder of the quotient cut toward zero. -/
def fmod (format : Format) (first second : Nat) : Rounded :=
  ofOutcome format ((Number.read format first).fmod (Number.read format second))

/-- The pattern of a small integer. -/
def integer (format : Format) (value : Nat) : Nat :=
  (format.roundInteger .nearestEven value).pattern

/-- The pattern of one half. -/
def half (format : Format) : Nat := (format.roundExact .nearestEven false 1 (-1)).pattern

/-- The magnitude of a pattern. -/
def magnitude (format : Format) (pattern : Nat) : Nat := format.magnitudeField pattern

/-- The magnitude of a pattern with a sign. -/
def withSign (format : Format) (negative : Bool) (pattern : Nat) : Nat :=
  format.magnitudeField pattern + format.signBit negative

/-- Whether a value is at least another one; neither is a NaN. -/
def atLeast (format : Format) (first second : Nat) : Bool :=
  format.toOrdinal second ≤ format.toOrdinal first

/-- Whether a value is above another one; neither is a NaN. -/
def above (format : Format) (first second : Nat) : Bool :=
  format.toOrdinal second < format.toOrdinal first

end LibmAudit.Native
