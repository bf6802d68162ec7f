/-
**What native calls give.**

* `Response.slots`: the kinds of the outputs of a call.
* `Native.call_completes`: only the fused multiplication refuses operands.
* `Native.slots_call`: a routine gives outputs of its kinds.
-/

import LibmAudit.Library.Choice
import LibmAudit.Proofs.Reference.Action

namespace LibmAudit

variable {format : Format}

/-- The only routine of three floats is the fused multiplication. -/
theorem Routine.eq_fma_of_three {routine : Routine} {first second third : ℕ}
    (kinds : [.float first, .float second, .float third].map SlotValue.slot =
      routine.shape.inputs) : routine = .fma := by
  cases routine <;> first | rfl | exact absurd kinds (by simp [shape, Shape.inputs])

/-- The kinds of the outputs. -/
def Response.slots (response : Response) : List Slot := response.outputs.map SlotValue.slot

namespace Native

variable {routine : Routine} {pattern first second : ℕ}

theorem slots_round : (round format pattern).slots = [.float] := by
  unfold round
  dsimp only
  split_ifs <;> rfl

theorem slots_scale (power : ℤ) : (scale format pattern power).slots = [.float] := by
  unfold scale
  split <;> rfl

theorem slots_significand : (significand format pattern).slots = [.float] := by
  unfold significand
  split
  · rfl
  · exact slots_scale _

theorem slots_frexp : (Reference.frexp format pattern).slots = [.float, .int] := by
  unfold Reference.frexp
  split <;> rfl

theorem slots_modf : (Reference.modf format pattern).slots = [.float, .float] := by
  unfold Reference.modf
  dsimp only
  split <;> rfl

theorem slots_extremum (larger : Bool) :
    (extremum larger format first second).slots = [.float] := by
  unfold extremum
  split_ifs <;> rfl

theorem slots_fdim : (fdim format first second).slots = [.float] := by
  unfold fdim
  split_ifs <;> rfl

theorem slots_nextafter : (nextafter format first second).slots = [.float] := by
  unfold nextafter
  split_ifs <;> rfl

theorem slots_scalb : (scalb format first second).slots = [.float] := by
  unfold scalb
  dsimp only
  split_ifs
  · rfl
  · rfl
  · rfl
  · rfl
  · split
    · rfl
    · exact slots_scale _

/-- Routines of one float operand. -/
theorem slots_callUnary (inputs : routine.shape.inputs = [.float]) :
    (callUnary routine format pattern).slots = routine.shape.outputs := by
  cases routine <;> try exact absurd inputs (by decide)
  case round => exact slots_round
  case significand => exact slots_significand
  case frexp => exact slots_frexp
  case modf => exact slots_modf
  all_goals rfl

/-- Routines of two float operands. -/
theorem slots_callBinary (inputs : routine.shape.inputs = [.float, .float]) :
    (callBinary routine format first second).slots = routine.shape.outputs := by
  cases routine <;> try exact absurd inputs (by decide)
  case fmax | fmin => exact slots_extremum _
  case fdim => exact slots_fdim
  case nextafter => exact slots_nextafter
  case scalb => exact slots_scalb
  all_goals rfl

theorem slots_fma {third : ℕ} {response : Response}
    (given : fma format first second third = .ok response) : response.slots = [.float] := by
  unfold fma at given
  dsimp only at given
  split_ifs at given
  rw [← Except.ok.inj given]
  rfl

/-- Every routine but the fused multiplication gives something. -/
theorem call_completes (other : routine ≠ .fma) {operands : List SlotValue}
    (kinds : operands.map SlotValue.slot = routine.shape.inputs) :
    ∃ response, call routine format operands = .ok response := by
  rcases Routine.operands_cases kinds with ⟨pattern, rfl⟩ | ⟨first, second, rfl⟩ |
    ⟨first, second, third, rfl⟩ | ⟨pattern, power, rfl⟩
  · exact ⟨_, rfl⟩
  · exact ⟨_, rfl⟩
  · exact absurd (Routine.eq_fma_of_three kinds) other
  · exact ⟨_, rfl⟩

/-- A routine gives outputs of its kinds for operands of its kinds. -/
theorem slots_call {operands : List SlotValue}
    (kinds : operands.map SlotValue.slot = routine.shape.inputs) {response : Response}
    (given : call routine format operands = .ok response) :
    response.slots = routine.shape.outputs := by
  rcases Routine.operands_cases kinds with ⟨pattern, rfl⟩ | ⟨first, second, rfl⟩ |
    ⟨first, second, third, rfl⟩ | ⟨pattern, power, rfl⟩
  · rw [← Except.ok.inj given]
    exact slots_callUnary kinds.symm
  · rw [← Except.ok.inj given]
    exact slots_callBinary kinds.symm
  · rw [Routine.eq_fma_of_three kinds]
    exact slots_fma given
  · rw [← Except.ok.inj given, Shape.outputs_of_inputs (Or.inr kinds)]
    exact slots_scale _

end Native

end LibmAudit
