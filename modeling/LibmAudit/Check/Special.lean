/-
**Comparing special values.**

* `Comparison`: agreement, disagreement with its reason, or neither, when the distance has to
  decide.
* `Format.compareSpecial`: how an actual pattern compares with an expected one when NaNs, infinities
  and zeros are involved.
-/

import LibmAudit.Format.Pattern

namespace LibmAudit

/-- Why a special value disagrees. -/
inductive Disagreement
  | expectedNaN
  | unexpectedNaN
  | infinitySign
  | expectedInfinity
  | unexpectedInfinity
  | zeroSign
  | nonzeroSign
deriving DecidableEq, Repr

/-- The wording of a disagreement. -/
def Disagreement.reason : Disagreement → String
  | expectedNaN => "expected NaN"
  | unexpectedNaN => "unexpected NaN"
  | infinitySign => "infinity of the wrong sign"
  | expectedInfinity => "expected infinity"
  | unexpectedInfinity => "unexpected infinity"
  | zeroSign => "zero of the wrong sign"
  | nonzeroSign => "nonzero of the wrong sign, expected a zero"

/-- How two patterns compare. -/
inductive Comparison
  /-- Both are finite, and their distance decides. -/
  | deferred
  | agree
  | disagree (cause : Disagreement)
deriving DecidableEq, Repr

namespace Format

/-- Compares two patterns of which neither is a NaN or an infinity. -/
def compareZeros (format : Format) (expected actual : Int)
    (signedZero flushSubnormals : Bool) : Comparison :=
  let sameSign := format.isNegative expected == format.isNegative actual
  let strict := signedZero && !sameSign
  if format.isZero expected && format.isZero actual then
    if strict then .disagree .zeroSign else .agree
  else if strict && format.isZero actual then .disagree .zeroSign
  else if strict && format.isZero expected then .disagree .nonzeroSign
  else if flushSubnormals && format.isZero actual && format.isSubnormal expected && sameSign then
    .agree
  else .deferred

/-- Compares two patterns of which neither is a NaN. -/
def compareInfinities (format : Format) (expected actual : Int)
    (signedZero flushSubnormals : Bool) : Comparison :=
  match format.isInfinite expected, format.isInfinite actual with
  | true, true =>
    if format.isNegative expected = format.isNegative actual then .agree
    else .disagree .infinitySign
  | true, false => .disagree .expectedInfinity
  | false, true => .disagree .unexpectedInfinity
  | false, false => format.compareZeros expected actual signedZero flushSubnormals

/-- Compares an actual pattern with an expected one. -/
def compareSpecial (format : Format) (expected actual : Int)
    (signedZero flushSubnormals : Bool) : Comparison :=
  match format.isNaN expected, format.isNaN actual with
  | true, true => .agree
  | true, false => .disagree .expectedNaN
  | false, true => .disagree .unexpectedNaN
  | false, false => format.compareInfinities expected actual signedZero flushSubnormals

end Format

end LibmAudit
