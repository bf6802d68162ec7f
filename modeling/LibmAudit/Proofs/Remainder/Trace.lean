/-
**The steps of the machine remainder.**

The reduction of a dividend is run again with a list of the subtractions, doublings and halvings it
performs. Each result is taken from the entry in the list, so that the list leaves none out.

* `Native.MachineStep`: a subtraction, a doubling or a halving.
* `Native.MachineStep.IsExact`: the step does not round.
* `Native.tracedReduce`: the reduction with its steps.
* `Native.tracedReduce_reduction`: without the list it is the reduction.
-/

import LibmAudit.Native.Remainder
import LibmAudit.Proofs.Value

namespace LibmAudit.Native

attribute [local instance (high)] instPowNat

/-- An operation of the machine on patterns. -/
inductive MachineStep
  | subtract (first second : ℕ)
  | double (operand : ℕ)
  | halve (operand : ℕ)

namespace MachineStep

/-- What the machine gives. -/
def result (format : Format) : MachineStep → Rounded
  | subtract first second => sub format first second
  | double operand => add format operand operand
  | halve operand => mul format operand (half format)

/-- What the operation gives in exact arithmetic. -/
noncomputable def exactValue (format : Format) : MachineStep → ℝ
  | subtract first second => format.realOf first - format.realOf second
  | double operand => 2 * format.realOf operand
  | halve operand => format.realOf operand / 2

/-- The machine gives the exact result, and no exception. -/
def IsExact (format : Format) (step : MachineStep) : Prop :=
  format.isFinite (step.result format).pattern = true ∧
    format.realOf (step.result format).pattern = step.exactValue format ∧
    (step.result format).flags = .none

end MachineStep

/-- A reduction with the steps performed so far. -/
structure Traced where
  reduction : Reduction
  steps : List MachineStep

namespace Traced

/-- Adds the exceptions of an operation. -/
def raise (traced : Traced) (flags : Flags) : Traced :=
  ⟨traced.reduction.raise flags, traced.steps⟩

/-- Subtracts a multiple of the divisor. -/
def subtract (format : Format) (traced : Traced) (product : Rounded) (multiple : ℕ) : Traced :=
  let step := MachineStep.subtract traced.reduction.rest product.pattern
  let difference := step.result format
  ⟨⟨difference.pattern, traced.reduction.quotient + multiple,
    traced.reduction.flags.union difference.flags⟩, traced.steps ++ [step]⟩

/-- Performs a step that leaves the rest as it is. -/
def perform (format : Format) (traced : Traced) (step : MachineStep) : Traced :=
  ⟨traced.reduction.raise (step.result format).flags, traced.steps ++ [step]⟩

/-- Subtracts a multiple of the divisor if the dividend is at least as large. -/
def step (format : Format) (divisor multiple : ℕ) (traced : Traced) : Traced :=
  let product := mul format divisor (integer format multiple)
  let traced := traced.raise product.flags
  if atLeast format traced.reduction.rest product.pattern then
    traced.subtract format product multiple
  else traced

/-- Rounds the quotient by doubling the rest. -/
def roundByDoubling (format : Format) (divisor : ℕ) (traced : Traced) : Traced :=
  let twice := MachineStep.double traced.reduction.rest
  let traced := traced.perform format twice
  if above format (twice.result format).pattern divisor then
    let traced := traced.subtract format ⟨divisor, .none⟩ 1
    let twice := MachineStep.double traced.reduction.rest
    let traced := traced.perform format twice
    if atLeast format (twice.result format).pattern divisor then
      traced.subtract format ⟨divisor, .none⟩ 1
    else traced
  else traced

/-- Rounds the quotient by halving the divisor. -/
def roundByHalving (format : Format) (divisor : ℕ) (traced : Traced) : Traced :=
  let middle := MachineStep.halve divisor
  let traced := traced.perform format middle
  if above format traced.reduction.rest (middle.result format).pattern then
    let traced := traced.subtract format ⟨divisor, .none⟩ 1
    if atLeast format traced.reduction.rest (middle.result format).pattern then
      traced.subtract format ⟨divisor, .none⟩ 1
    else traced
  else traced

/-- Rounds the quotient. -/
def round (format : Format) (divisor : ℕ) (traced : Traced) : Traced :=
  if above format (halvingLimit format) divisor then traced.roundByDoubling format divisor
  else traced.roundByHalving format divisor

end Traced

/-- The dividend below eight times the divisor, as far as that is finite. -/
def reducedDividend (format : Format) (dividend divisor : ℕ) : Rounded :=
  if atLeast format (eighthOfMax format) divisor then
    fmod format dividend (mul format divisor (integer format 8)).pattern
  else ⟨dividend, .none⟩

/-- The reduction of a dividend with its steps. -/
def tracedReduce (format : Format) (dividend divisor : ℕ) : Traced :=
  let dividend := reducedDividend format dividend divisor
  let start : Traced := ⟨⟨magnitude format dividend.pattern, 0, dividend.flags⟩, []⟩
  ((start.step format divisor 4).step format divisor 2).round format divisor

/-! ## Without the list -/

namespace Traced

variable (format : Format) (divisor : ℕ) (traced : Traced)

theorem step_reduction (multiple : ℕ) :
    (traced.step format divisor multiple).reduction =
      traced.reduction.step format divisor multiple := by
  unfold step Reduction.step
  exact apply_ite Traced.reduction _ _ _

theorem roundByDoubling_reduction :
    (traced.roundByDoubling format divisor).reduction =
      traced.reduction.roundByDoubling format divisor := by
  unfold roundByDoubling Reduction.roundByDoubling
  dsimp only
  rw [apply_ite Traced.reduction, apply_ite Traced.reduction]
  rfl

theorem roundByHalving_reduction :
    (traced.roundByHalving format divisor).reduction =
      traced.reduction.roundByHalving format divisor := by
  unfold roundByHalving Reduction.roundByHalving
  dsimp only
  rw [apply_ite Traced.reduction, apply_ite Traced.reduction]
  rfl

end Traced

/-- The traced reduction is the reduction. -/
theorem tracedReduce_reduction (format : Format) (dividend divisor : ℕ) :
    (tracedReduce format dividend divisor).reduction = reduce format dividend divisor := by
  unfold tracedReduce reduce Traced.round
  dsimp only
  rw [apply_ite Traced.reduction, Traced.roundByDoubling_reduction,
    Traced.roundByHalving_reduction, Traced.step_reduction, Traced.step_reduction]
  rfl

end LibmAudit.Native
