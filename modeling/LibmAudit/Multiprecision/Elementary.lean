/-
**Elementary functions on multiprecision numbers.**

Exponentials, logarithms, trigonometric and hyperbolic functions, their inverses, and powers: the
special values and the exact ones here, all others by enclosures.
-/

import LibmAudit.Enclosure.Arc
import LibmAudit.Enclosure.Power
import LibmAudit.Enclosure.Trigonometric
import LibmAudit.Multiprecision.Arithmetic

namespace LibmAudit.Number

-- Powers are the built-in ones, whatever else is imported.
attribute [local instance (high)] instPowNat

/-- The number one as a result. -/
def one : Outcome := .exact ⟨false, 1, 0⟩

/-- An odd function that keeps zeros, without a value at the infinities. -/
def oddOn (enclose : Dyadic → Nat → Enclosure) : Number → Outcome
  | nan | infinity _ => .nan
  | zero negative => .zero negative
  | finite value => .enclosed value.negative (enclose value)

/-! ## Exponentials -/

/-- Beyond two to this power an exponent leaves the range for certain. -/
def exponentTop : Int := 40

/-- An exponential function: whether it is exact at an argument, and its enclosures elsewhere. -/
def exponential (exactly? : Dyadic → Option Dyadic) (enclose : Dyadic → Nat → Enclosure) :
    Number → Outcome
  | nan => .nan
  | infinity negative => if negative then .zero false else .infinity false false
  | zero _ => one
  | finite value =>
    if exponentTop < value.top then if value.negative then .minute false else .vast false
    else
      match exactly? value with
      | some power => .exact power
      | none => .enclosed false (enclose value)

/-- The exponential. -/
def exp : Number → Outcome := exponential (fun _ => none) Exponential.exp

/-- Two to the power of a number. -/
def exp2 : Number → Outcome :=
  exponential
    (fun value =>
      let power : Int := value.floorMagnitude
      if value.isInteger then some ⟨false, 1, if value.negative then -power else power⟩ else none)
    Exponential.exp2

/-- The exponential less one. -/
def expm1 : Number → Outcome
  | nan => .nan
  | infinity negative => if negative then .exact ⟨true, 1, 0⟩ else .infinity false false
  | zero negative => .zero negative
  | finite value =>
    if exponentTop < value.top ∧ !value.negative then .vast false
    else .enclosed value.negative (Exponential.expm1 value)

/-! ## Hyperbolic functions -/

/-- The hyperbolic sine. -/
def sinh : Number → Outcome
  | nan => .nan
  | infinity negative => .infinity negative false
  | zero negative => .zero negative
  | finite value =>
    if exponentTop < value.top then .vast value.negative
    else .enclosed value.negative (Exponential.sinh value)

/-- The hyperbolic cosine. -/
def cosh : Number → Outcome
  | nan => .nan
  | infinity _ => .infinity false false
  | zero _ => one
  | finite value =>
    if exponentTop < value.top then .vast false else .enclosed false (Exponential.cosh value)

/-- The hyperbolic tangent. -/
def tanh : Number → Outcome
  | nan => .nan
  | infinity negative => .exact ⟨negative, 1, 0⟩
  | zero negative => .zero negative
  | finite value => .enclosed value.negative (Exponential.tanh value)

/-- The inverse hyperbolic sine. -/
def asinh : Number → Outcome
  | nan => .nan
  | infinity negative => .infinity negative false
  | zero negative => .zero negative
  | finite value => .enclosed value.negative (Logarithm.asinh value)

/-- The inverse hyperbolic cosine. -/
def acosh : Number → Outcome
  | nan | zero _ => .nan
  | infinity negative => if negative then .nan else .infinity false false
  | finite value =>
    if value.negative ∨ value.top < 1 then .nan
    else if value.isUnit then .zero false
    else .enclosed false (Logarithm.acosh value)

/-- The inverse hyperbolic tangent. -/
def atanh : Number → Outcome
  | nan | infinity _ => .nan
  | zero negative => .zero negative
  | finite value =>
    if value.isUnit then .infinity value.negative true
    else if 1 ≤ value.top then .nan
    else .enclosed value.negative (Logarithm.atanh value)

/-! ## Logarithms -/

/-- A logarithm: whether it is exact at a positive argument other than one, and its enclosures
elsewhere. -/
def logarithm (exactly? : Dyadic → Option Int) (enclose : Dyadic → Nat → Enclosure) :
    Number → Outcome
  | nan => .nan
  | infinity negative => if negative then .nan else .infinity false false
  | zero _ => .infinity true true
  | finite value =>
    if value.negative then .nan
    else if value.isUnit then .zero false
    else
      match exactly? value with
      | some power => .ofMultiple power 0 (.zero false)
      | none => .enclosed (value.top < 1) (enclose value)

/-- The natural logarithm. -/
def log : Number → Outcome := logarithm (fun _ => none) Logarithm.log

/-- The binary logarithm. -/
def log2 : Number → Outcome :=
  logarithm
    (fun value => if value.reduced.significand = 1 then some value.reduced.exponent else none)
    Logarithm.log2

/-- The decimal logarithm. -/
def log10 : Number → Outcome :=
  logarithm
    (fun value =>
      let reduced := value.reduced
      if 0 < reduced.exponent ∧ reduced.exponent ≤ bitLength reduced.significand ∧
          5 ^ reduced.exponent.toNat = reduced.significand then some reduced.exponent
      else none)
    Logarithm.log10

/-- The logarithm of one more than a number. -/
def log1p : Number → Outcome
  | nan => .nan
  | infinity negative => if negative then .nan else .infinity false false
  | zero negative => .zero negative
  | finite value =>
    if value.negative ∧ value.isUnit then .infinity true true
    else if value.negative ∧ 1 ≤ value.top then .nan
    else .enclosed value.negative (Logarithm.log1p value)

/-! ## Trigonometric functions -/

/-- The sine. -/
def sin : Number → Outcome
  | finite value => .enclosed (Trigonometric.sinIsNegative value) (Trigonometric.sin value)
  | number => oddOn Trigonometric.sin number

/-- The cosine. -/
def cos : Number → Outcome
  | nan | infinity _ => .nan
  | zero _ => one
  | finite value => .enclosed (Trigonometric.cosIsNegative value) (Trigonometric.cos value)

/-- The tangent. -/
def tan : Number → Outcome
  | finite value =>
    .enclosed (Trigonometric.sinIsNegative value != Trigonometric.cosIsNegative value)
      (Trigonometric.tan value)
  | number => oddOn Trigonometric.tan number

/-- The inverse tangent. -/
def atan : Number → Outcome
  | infinity negative => .enclosed negative Arc.rightAngle
  | number => oddOn Arc.atan number

/-- The inverse sine. -/
def asin : Number → Outcome
  | finite value =>
    if value.isUnit then .enclosed value.negative Arc.rightAngle
    else if 1 ≤ value.top then .nan
    else .enclosed value.negative (Arc.asin value)
  | number => oddOn Arc.asin number

/-- The inverse cosine. -/
def acos : Number → Outcome
  | nan | infinity _ => .nan
  | zero _ => .enclosed false Arc.rightAngle
  | finite value =>
    if value.isUnit then if value.negative then .enclosed false Arc.halfTurn else .zero false
    else if 1 ≤ value.top then .nan
    else .enclosed false (Arc.acos value)

/-- The angle of a point. -/
def atan2 (ordinate abscissa : Number) : Outcome :=
  match ordinate, abscissa with
  | nan, _ | _, nan => .nan
  | infinity negative, infinity behind => .enclosed negative (Arc.diagonal behind)
  | infinity negative, _ => .enclosed negative Arc.rightAngle
  | _, infinity behind =>
    if behind then .enclosed ordinate.isNegative Arc.halfTurn else .zero ordinate.isNegative
  | zero negative, _ =>
    if abscissa.isNegative then .enclosed negative Arc.halfTurn else .zero negative
  | finite value, zero _ => .enclosed value.negative Arc.rightAngle
  | finite value, finite other => .enclosed value.negative (Arc.atan2 value other)

/-! ## Powers -/

/-- Whether a number is an odd integer. -/
def isOdd : Number → Bool
  | finite value => value.isOdd
  | _ => false

/-- The magnitude of a power of a finite base whose magnitude is not one. -/
def finitePower (negative : Bool) (base exponent : Dyadic) : Outcome :=
  let base := base.abs.reduced
  let exponent := exponent.reduced
  if exponentTop + 6 < exponent.top + Power.logTop base then
    if Power.isAboveOne base exponent then .vast negative else .minute negative
  else
    .magnitude negative fun digits =>
      match Power.rational? base exponent digits with
      | some ratio => Truncation.ofRatio ratio.numerator ratio.denominator ratio.exponent digits
      | none => refine (Power.enclose base exponent) digits

/-- A power of a base, neither of them zero, where `isLarge` tells whether the base is above one. -/
def infinitePower (isLarge : Bool) (exponentNegative : Bool) : Outcome :=
  if isLarge = exponentNegative then .zero false else .infinity false false

/-- The power. -/
def pow (base exponent : Number) : Outcome :=
  let odd := exponent.isOdd
  let negative := base.isNegative && odd
  match base, exponent with
  | _, zero _ => one
  | nan, _ => .nan
  | base, nan =>
    match base with
    | finite value => if value.isUnit ∧ !value.negative then one else .nan
    | _ => .nan
  | zero _, infinity below => if below then .infinity false false else .zero false
  | zero _, finite power => if power.negative then .infinity negative true else .zero negative
  | infinity _, infinity below => infinitePower true below
  | infinity _, finite power => if power.negative then .zero negative else .infinity negative false
  | finite value, infinity below =>
    if value.isUnit then one else infinitePower (1 ≤ value.top) below
  | finite value, finite power =>
    if value.negative ∧ !power.isInteger then .nan
    else if value.isUnit then .exact ⟨negative, 1, 0⟩
    else finitePower negative value power

end LibmAudit.Number
