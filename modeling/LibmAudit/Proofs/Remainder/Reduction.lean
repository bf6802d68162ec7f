/-
**The machine remainder does not round.**

* `Native.Traced.Reduces`: the rest of a reduction is an exact remainder below a multiple of the
  divisor, and all steps so far were exact.
* `Native.Traced.Reduces.step`: subtracting a multiple of the divisor halves the bound.
* `Native.Traced.Rounds`: the quotient is rounded to nearest even.
* `Native.Traced.Reduces.round`: doubling the rest or halving the divisor rounds the quotient.
-/

import LibmAudit.Proofs.Remainder.Constants
import LibmAudit.Proofs.Remainder.Quotient
import LibmAudit.Proofs.Remainder.Trace

namespace LibmAudit.Native

attribute [local instance (high)] instPowNat

variable {format : Format}

/-! ## Single steps -/

/-- Two values of which neither is above twice the other have an exact difference. -/
theorem holds_difference {first second : ℕ} {pattern other : ℕ}
    (encodes : format.Encodes pattern first) (encodes' : format.Encodes other second)
    (close : first ≤ 2 * second) (close' : second ≤ 2 * first) :
    format.Holds ((first : ℤ) - second) := by
  have grid := encodes.onGrid
  have grid' := encodes'.onGrid
  have small := encodes.natAbs_lt
  have small' := encodes'.natAbs_lt
  rw [Int.natAbs_natCast] at grid grid' small small'
  rcases le_total second first with le | ge
  · refine Format.OnGrid.holds ?_ (by omega)
    rw [show ((first : ℤ) - second).natAbs = first - second by omega]
    exact grid.sub grid' le close
  · refine Format.OnGrid.holds ?_ (by omega)
    rw [show ((first : ℤ) - second).natAbs = second - first by omega]
    exact grid'.sub grid ge close'

namespace MachineStep

theorem subtract_exact {first second : ℕ} {units units' : ℤ}
    (encodes : format.Encodes first units) (encodes' : format.Encodes second units')
    (holds : format.Holds (units - units')) :
    (subtract first second).IsExact format ∧
      format.Encodes ((subtract first second).result format).pattern (units - units') := by
  obtain ⟨pattern, result, difference⟩ := encodes.sub encodes' holds
  have machine : (subtract first second).result format = ⟨pattern, .none⟩ := result
  unfold IsExact
  rw [machine]
  refine ⟨⟨difference.isFinite, ?_, rfl⟩, difference⟩
  rw [difference.realOf, exactValue, encodes.realOf, encodes'.realOf, ← sub_mul, Int.cast_sub]

theorem double_exact {operand : ℕ} {units : ℤ} (encodes : format.Encodes operand units)
    (small : 2 * units.natAbs < format.unitsAt format.infinityOrdinal) :
    (double operand).IsExact format ∧
      format.Encodes ((double operand).result format).pattern (units + units) := by
  have holds : format.Holds (units + units) := by
    refine Format.OnGrid.holds ?_ (by omega)
    have grid := encodes.onGrid.mul_two_pow 1
    rwa [pow_one, show units.natAbs * 2 = (units + units).natAbs by omega] at grid
  obtain ⟨pattern, result, twice⟩ := encodes.add encodes holds
  have machine : (double operand).result format = ⟨pattern, .none⟩ := result
  unfold IsExact
  rw [machine]
  refine ⟨⟨twice.isFinite, ?_, rfl⟩, twice⟩
  rw [twice.realOf, exactValue, encodes.realOf]
  push_cast
  ring

theorem halve_exact (three : 3 ≤ format.exponentBits) {operand units : ℕ}
    (encodes : format.Encodes operand units) (large : 2 * 2 ^ format.fractionBits ≤ units) :
    2 ∣ units ∧ (halve operand).IsExact format ∧
      format.Encodes ((halve operand).result format).pattern (units / 2 : ℕ) := by
  have positive := Nat.two_pow_pos format.fractionBits
  have onGrid := encodes.onGrid
  have below := encodes.natAbs_lt
  rw [Int.natAbs_natCast] at onGrid below
  obtain ⟨⟨middle, rfl⟩, grid⟩ := onGrid.half large
  rw [Nat.mul_div_cancel_left _ two_pos] at grid ⊢
  have value : (0 : ℝ) < ((2 * middle : ℕ) : ℤ) * 2 ^ format.lowestPlace := by
    have : (0 : ℝ) < ((2 * middle : ℕ) : ℤ) := by exact_mod_cast (by omega : 0 < 2 * middle)
    positivity
  have product : (((2 * middle : ℕ) : ℤ) : ℝ) * 2 ^ format.lowestPlace * (1 / 2) =
      middle * 2 ^ format.lowestPlace := by
    push_cast
    ring
  obtain ⟨ordinal, rfl, pattern, flags⟩ := Format.mul_clipped encodes.gives (half_gives three)
    value (by norm_num) product grid
  have finite : ordinal < format.infinityOrdinal :=
    format.unitsAt_strictMono.lt_iff_lt.mp (by omega)
  have half := Format.encodes_ofNat finite
  have machine : (halve operand).result format = ⟨ordinal, .none⟩ := by
    rw [← flags finite, ← min_eq_left finite.le, ← pattern]
    rfl
  unfold IsExact
  rw [machine]
  refine ⟨dvd_mul_right _ _, ⟨half.isFinite, ?_, rfl⟩, half⟩
  rw [half.realOf, exactValue, encodes.realOf]
  push_cast
  ring

end MachineStep

/-- A small multiple of a divisor, as a number that may be beyond the infinities. -/
theorem mul_integer (three : 3 ≤ format.exponentBits) {divisor units power : ℕ}
    (encodes : format.Encodes divisor units) (positive : 0 < units) (small : power ≤ 3) :
    ∃ ordinal, format.unitsAt ordinal = units * 2 ^ power ∧
      (mul format divisor (integer format (2 ^ power))).pattern =
        min ordinal format.infinityOrdinal := by
  have grid := encodes.onGrid.mul_two_pow power
  rw [Int.natAbs_natCast] at grid
  have value : (0 : ℝ) < (units : ℤ) * 2 ^ format.lowestPlace := by
    have : (0 : ℝ) < (units : ℤ) := by exact_mod_cast positive
    positivity
  have product : ((units : ℤ) : ℝ) * 2 ^ format.lowestPlace * 2 ^ power =
      (units * 2 ^ power : ℕ) * 2 ^ format.lowestPlace := by
    push_cast
    ring
  obtain ⟨ordinal, same, pattern, -⟩ := Format.mul_clipped encodes.gives
    (integer_gives three small) value (by positivity) product grid
  exact ⟨ordinal, same, pattern⟩

/-! ## States of a reduction -/

namespace Traced

/-- All steps so far were exact. -/
def IsExact (format : Format) (traced : Traced) : Prop :=
  ∀ step ∈ traced.steps, step.IsExact format

theorem IsExact.append {traced : Traced} {reduction : Reduction} {step : MachineStep}
    (exact : traced.IsExact format) (next : step.IsExact format) :
    IsExact format ⟨reduction, traced.steps ++ [step]⟩ := by
  intro other member
  rcases List.mem_append.mp member with earlier | last
  · exact exact other earlier
  · rw [List.mem_singleton.mp last]
    exact next

/-- The rest and the quotient so far, by exact steps. -/
structure Holds (format : Format) (traced : Traced) (rest : ℤ) (quotient : ℕ) : Prop where
  encodes : format.Encodes traced.reduction.rest rest
  quotient_eq : traced.reduction.quotient = quotient
  isExact : traced.IsExact format

variable {traced : Traced} {rest : ℤ} {quotient : ℕ}

theorem Holds.raise (state : traced.Holds format rest quotient) (flags : Flags) :
    (traced.raise flags).Holds format rest quotient :=
  ⟨state.encodes, state.quotient_eq, state.isExact⟩

theorem Holds.perform {step : MachineStep} (state : traced.Holds format rest quotient)
    (exact : step.IsExact format) : (traced.perform format step).Holds format rest quotient :=
  ⟨state.encodes, state.quotient_eq, state.isExact.append exact⟩

theorem Holds.subtract {product : Rounded} {units : ℤ} (state : traced.Holds format rest quotient)
    (multiple : ℕ) (encodes : format.Encodes product.pattern units)
    (holds : format.Holds (rest - units)) :
    (traced.subtract format product multiple).Holds format (rest - units)
      (quotient + multiple) := by
  obtain ⟨exact, difference⟩ := MachineStep.subtract_exact state.encodes encodes holds
  refine ⟨difference, ?_, state.isExact.append exact⟩
  rw [← state.quotient_eq]
  rfl

/-! ## Subtracting multiples -/

/-- The rest is below a multiple of the divisor and leaves out the rest of the total. The quotient
is even so far. -/
def Reduces (format : Format) (total divisor bound : ℕ) (traced : Traced) : Prop :=
  ∃ rest quotient : ℕ, traced.Holds format rest quotient ∧ rest < bound * divisor ∧
    total = rest + quotient * divisor ∧ Even quotient ∧ quotient + bound ≤ 8

/-- Subtracting a multiple of the divisor, if possible, halves the bound of the rest. -/
theorem Reduces.step (three : 3 ≤ format.exponentBits) {divisor units power total : ℕ}
    (encodes : format.Encodes divisor units) (positive : 0 < units)
    (some : 1 ≤ power) (few : power ≤ 3)
    (reduces : traced.Reduces format total units (2 * 2 ^ power)) :
    (traced.step format divisor (2 ^ power)).Reduces format total units (2 ^ power) := by
  obtain ⟨rest, quotient, state, below, split, even, small⟩ := reduces
  obtain ⟨ordinal, same, pattern⟩ := mul_integer three encodes positive few
  have state := state.raise (mul format divisor (integer format (2 ^ power))).flags
  have compare := state.encodes.atLeast_clipped_iff ordinal
  rw [same, Nat.cast_le, mul_comm, ← pattern] at compare
  unfold Traced.step
  dsimp only
  by_cases large : 2 ^ power * units ≤ rest
  · have finite : ordinal < format.infinityOrdinal := by
      have bound := state.encodes.natAbs_lt
      rw [Int.natAbs_natCast] at bound
      rw [← format.unitsAt_strictMono.lt_iff_lt, same, mul_comm]
      omega
    have product : format.Encodes
        (mul format divisor (integer format (2 ^ power))).pattern (2 ^ power * units : ℕ) := by
      rw [pattern, min_eq_left finite.le, mul_comm, ← same]
      exact Format.encodes_ofNat finite
    have double : 2 * 2 ^ power * units = 2 * (2 ^ power * units) := mul_assoc _ _ _
    have difference := holds_difference state.encodes product (by omega) (by omega)
    have next := state.subtract (2 ^ power) product difference
    have evenPower : Even (2 ^ power) := even_two.pow_of_ne_zero (by omega)
    rw [← Nat.cast_sub large] at next
    rw [if_pos (compare.mpr large)]
    refine ⟨_, _, next, by omega, ?_, even.add evenPower, ?_⟩
    · rw [split, Nat.add_mul]
      omega
    · omega
  · rw [if_neg (mt compare.mp large)]
    exact ⟨rest, quotient, state, not_le.mp large, split, even, by omega⟩

/-! ## Rounding the quotient -/

/-- The quotient is rounded to nearest even. -/
def Rounds (format : Format) (total divisor : ℕ) (traced : Traced) : Prop :=
  ∃ (rest : ℤ) (quotient : ℕ), traced.Holds format rest quotient ∧
    NearestDivision total divisor quotient rest ∧ quotient ≤ 8

/-- The divisor can be subtracted from half of it on. -/
theorem Holds.subtract_divisor {divisor units rest : ℕ}
    (state : traced.Holds format rest quotient) (encodes : format.Encodes divisor units)
    (below : rest < 2 * units) (above : units ≤ 2 * rest) :
    (traced.subtract format ⟨divisor, .none⟩ 1).Holds format (rest - units) (quotient + 1) :=
  state.subtract 1 encodes (holds_difference state.encodes encodes (by omega) (by omega))

section Rounding

variable {units : ℕ} {rest : ℕ}

/-- The divisor is not subtracted from a rest up to half of it. -/
theorem Holds.rounds_down (state : traced.Holds format rest quotient) (half : 2 * rest ≤ units)
    (even : Even quotient) (small : quotient ≤ 8) :
    traced.Rounds format (rest + quotient * units) units := by
  refine ⟨rest, quotient, state, ⟨?_, by omega, fun _ => even⟩, small⟩
  push_cast
  ring

/-- It is subtracted once from a rest above half of it. -/
theorem Holds.rounds_up (state : traced.Holds format (rest - units) (quotient + 1))
    (above : units < 2 * rest) (below : 2 * rest < 3 * units) (small : quotient + 1 ≤ 8) :
    traced.Rounds format (rest + quotient * units) units := by
  refine ⟨_, _, state, ⟨?_, by omega, fun tie => by omega⟩, small⟩
  push_cast
  ring

/-- It is subtracted twice from a rest of one and a half times its size on. -/
theorem Holds.rounds_twice (state : traced.Holds format (rest - units - units) (quotient + 2))
    (above : 3 * units ≤ 2 * rest) (below : rest < 2 * units) (even : Even quotient)
    (small : quotient + 2 ≤ 8) : traced.Rounds format (rest + quotient * units) units := by
  refine ⟨_, _, state, ⟨?_, by omega, fun _ => even.add even_two⟩, small⟩
  push_cast
  ring

end Rounding

theorem Reduces.roundByDoubling {divisor units total : ℕ}
    (encodes : format.Encodes divisor units)
    (tiny : 8 * units ≤ format.unitsAt format.infinityOrdinal)
    (reduces : traced.Reduces format total units 2) :
    (traced.roundByDoubling format divisor).Rounds format total units := by
  obtain ⟨rest, quotient, state, below, rfl, even, small⟩ := reduces
  obtain ⟨exact, twice⟩ := MachineStep.double_exact state.encodes (by omega)
  have state := state.perform exact
  have compare := twice.above_iff encodes
  unfold Traced.roundByDoubling
  dsimp only
  by_cases above : units < 2 * rest
  · have once := state.subtract_divisor encodes below above.le
    obtain ⟨exact, twice⟩ := MachineStep.double_exact once.encodes (by omega)
    have once := once.perform exact
    have compare' := twice.atLeast_iff encodes
    rw [if_pos (compare.mpr (by omega))]
    by_cases again : 3 * units ≤ 2 * rest
    · have rests : ((rest : ℤ) - units) = (rest - units : ℕ) := by omega
      rw [rests] at once
      have both := once.subtract_divisor encodes (by omega) (by omega)
      rw [← rests] at both
      rw [if_pos (compare'.mpr (by omega))]
      exact both.rounds_twice again below even (by omega)
    · rw [if_neg (mt compare'.mp (by omega))]
      exact once.rounds_up above (by omega) (by omega)
  · rw [if_neg (mt compare.mp (by omega))]
    exact state.rounds_down (by omega) even (by omega)

theorem Reduces.roundByHalving (three : 3 ≤ format.exponentBits) {divisor units total : ℕ}
    (encodes : format.Encodes divisor units) (large : 2 * 2 ^ format.fractionBits ≤ units)
    (reduces : traced.Reduces format total units 2) :
    (traced.roundByHalving format divisor).Rounds format total units := by
  obtain ⟨rest, quotient, state, below, rfl, even, small⟩ := reduces
  obtain ⟨⟨half, rfl⟩, exact, middle⟩ := MachineStep.halve_exact three encodes large
  rw [Nat.mul_div_cancel_left _ two_pos] at middle
  have state := state.perform exact
  have compare := state.encodes.above_iff middle
  unfold Traced.roundByHalving
  dsimp only
  by_cases above : half < rest
  · have once := state.subtract_divisor encodes below (by omega)
    have compare' := once.encodes.atLeast_iff middle
    rw [if_pos (compare.mpr (by omega))]
    by_cases again : 3 * half ≤ rest
    · have rests : ((rest : ℤ) - (2 * half : ℕ)) = (rest - 2 * half : ℕ) := by omega
      rw [rests] at once
      have both := once.subtract_divisor encodes (by omega) (by omega)
      rw [← rests] at both
      rw [if_pos (compare'.mpr (by omega))]
      exact both.rounds_twice (by omega) below even (by omega)
    · rw [if_neg (mt compare'.mp (by omega))]
      exact once.rounds_up (by omega) (by omega) (by omega)
  · rw [if_neg (mt compare.mp (by omega))]
    exact state.rounds_down (by omega) even (by omega)

/-- Either way rounds the quotient. -/
theorem Reduces.round (three : 3 ≤ format.exponentBits) {divisor units total : ℕ}
    (encodes : format.Encodes divisor units) (reduces : traced.Reduces format total units 2) :
    (traced.round format divisor).Rounds format total units := by
  have compare := above_halvingLimit_iff three encodes
  have range := format.three_le_emax three
  unfold Traced.round
  by_cases tiny : units < 2 * 2 ^ format.fractionBits
  · rw [if_pos (compare.mpr tiny)]
    refine reduces.roundByDoubling encodes ?_
    have top := Nat.pow_le_pow_right two_pos
      (show format.fractionBits + 4 ≤ (format.emax + 1 - format.lowestPlace).toNat by
        unfold Format.lowestPlace Format.emin
        omega)
    rw [Format.unitsAt_infinityOrdinal]
    rw [pow_add] at top
    omega
  · rw [if_neg (mt compare.mp tiny)]
    exact reduces.roundByHalving three encodes (not_lt.mp tiny)

end Traced

end LibmAudit.Native
