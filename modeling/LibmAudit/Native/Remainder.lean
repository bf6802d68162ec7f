/-
**The remainder by machine arithmetic.**

* `Native.remquo`: the remainder of the quotient rounded to nearest even, and the low bits of the
  quotient. The dividend is first reduced to eight times the divisor, so that all further steps are
  exact.
-/

import LibmAudit.Native.Arithmetic

namespace LibmAudit.Native

-- Powers are the built-in ones, whatever else is imported.
attribute [local instance (high)] instPowNat

/-- A reduced dividend, the part of the quotient that is subtracted so far, and the exceptions. -/
structure Reduction where
  rest : Nat
  quotient : Nat
  flags : Flags := .none

namespace Reduction

/-- Adds the exceptions of a step. -/
def raise (reduction : Reduction) (flags : Flags) : Reduction :=
  { reduction with flags := reduction.flags.union flags }

/-- Subtracts a multiple of the divisor. -/
def subtract (format : Format) (reduction : Reduction) (product : Rounded) (multiple : Nat) :
    Reduction :=
  let difference := sub format reduction.rest product.pattern
  ⟨difference.pattern, reduction.quotient + multiple, reduction.flags.union difference.flags⟩

/-- Subtracts a multiple of the divisor if the dividend is at least as large. -/
def step (format : Format) (divisor multiple : Nat) (reduction : Reduction) : Reduction :=
  let product := mul format divisor (integer format multiple)
  let reduction := reduction.raise product.flags
  if atLeast format reduction.rest product.pattern then reduction.subtract format product multiple
  else reduction

/-- Rounds the quotient by doubling the rest, for a divisor that may be too small to halve. -/
def roundByDoubling (format : Format) (divisor : Nat) (reduction : Reduction) : Reduction :=
  let twice := add format reduction.rest reduction.rest
  let reduction := reduction.raise twice.flags
  if above format twice.pattern divisor then
    let reduction := reduction.subtract format ⟨divisor, .none⟩ 1
    let twice := add format reduction.rest reduction.rest
    let reduction := reduction.raise twice.flags
    if atLeast format twice.pattern divisor then reduction.subtract format ⟨divisor, .none⟩ 1
    else reduction
  else reduction

/-- Rounds the quotient by halving the divisor. -/
def roundByHalving (format : Format) (divisor : Nat) (reduction : Reduction) : Reduction :=
  let middle := mul format divisor (half format)
  let reduction := reduction.raise middle.flags
  if above format reduction.rest middle.pattern then
    let reduction := reduction.subtract format ⟨divisor, .none⟩ 1
    if atLeast format reduction.rest middle.pattern then
      reduction.subtract format ⟨divisor, .none⟩ 1
    else reduction
  else reduction

end Reduction

/-- Values below this cannot be halved exactly: twice the smallest normal value. -/
def halvingLimit (format : Format) : Nat :=
  (mul format (integer format 2) (format.minNormal false)).pattern

/-- The largest value that can be multiplied by eight. -/
def eighthOfMax (format : Format) : Nat :=
  (format.roundExact .nearestEven false (2 ^ format.precision - 1)
    (format.emax - format.fractionBits - 3)).pattern

/-- The reduction of a finite dividend by a finite divisor that is not zero. -/
def reduce (format : Format) (dividend divisor : Nat) : Reduction :=
  let dividend : Rounded :=
    if atLeast format (eighthOfMax format) divisor then
      fmod format dividend (mul format divisor (integer format 8)).pattern
    else ⟨dividend, .none⟩
  let start : Reduction := ⟨magnitude format dividend.pattern, 0, dividend.flags⟩
  let reduction := (start.step format divisor 4).step format divisor 2
  if above format (halvingLimit format) divisor then reduction.roundByDoubling format divisor
  else reduction.roundByHalving format divisor

/-- The remainder, the signed low bits of the quotient, and the exceptions. -/
def remquo (format : Format) (first second : Nat) : Nat × Int × Flags :=
  if format.isNaN first ∨ format.isNaN second ∨ format.isInfinite first ∨ format.isZero second then
    (format.quietNaN false, 0, .none)
  else if format.isInfinite second then (first, 0, .none)
  else
    let negative := format.isNegative first
    let reduction := reduce format first (magnitude format second)
    let rest :=
      if negative then withSign format (!format.isNegative reduction.rest) reduction.rest
      else reduction.rest
    let quotient : Int := reduction.quotient
    (rest, if negative = format.isNegative second then quotient else -quotient, reduction.flags)

end LibmAudit.Native
