/-
**The machine remainder is exact.**

* `Native.reducedDividend_encodesRest`: the dividend below eight times the divisor. Where that is
  not finite, every dividend is below it.
* `Native.tracedReduce_rounds`: the reduction rounds the quotient of that by exact steps.
* `Native.remquo_division`: the remainder and the quotient for values that are given by their sign
  and number.
-/

import LibmAudit.Proofs.Remainder.Reduction
import LibmAudit.Proofs.Remainder.Rest

namespace LibmAudit.Native

attribute [local instance (high)] instPowNat

variable {format : Format} (three : 3 ≤ format.exponentBits) (negative negative' : Bool)
  {dividend divisor : ℕ} (finite : dividend < format.infinityOrdinal)
  (finite' : divisor < format.infinityOrdinal) (positive : 0 < divisor)

include three finite finite' positive

/-- Multiples of eight times the divisor are taken away from the dividend. -/
theorem reducedDividend_encodesRest :
    ∃ pattern, reducedDividend format (format.signBit negative + dividend) divisor =
        ⟨pattern, .none⟩ ∧
      format.EncodesRest negative pattern
        (format.unitsAt dividend % (8 * format.unitsAt divisor) : ℕ) := by
  have encodes := Format.encodes_ofNat finite'
  have units := format.unitsAt_pos_iff.mpr positive
  have compare := atLeast_eighthOfMax_iff three encodes
  unfold reducedDividend
  by_cases small : 8 * format.unitsAt divisor < format.unitsAt format.infinityOrdinal
  · obtain ⟨eightfold, same, pattern⟩ := mul_integer three encodes units (le_refl 3)
    have inside : eightfold < format.infinityOrdinal := by
      rw [← format.unitsAt_strictMono.lt_iff_lt, same]
      omega
    have nonzero : 0 < eightfold := by
      rw [← format.unitsAt_pos_iff, same]
      omega
    have remainder := fmod_encodesRest negative finite inside nonzero
    have product : (mul format divisor (integer format 8)).pattern = eightfold := by
      rw [min_eq_left inside.le] at pattern
      exact pattern
    rw [if_pos (compare.mpr small), product]
    rwa [same, mul_comm] at remainder
  · have below := format.unitsAt_strictMono finite
    rw [if_neg (mt compare.mp small), Nat.mod_eq_of_lt (by omega)]
    exact ⟨_, rfl, Format.encodesRest_signBit_add negative finite⟩

/-- The reduction rounds the quotient by exact steps. -/
theorem tracedReduce_rounds :
    (tracedReduce format (format.signBit negative + dividend) divisor).Rounds format
      (format.unitsAt dividend % (8 * format.unitsAt divisor)) (format.unitsAt divisor) := by
  obtain ⟨pattern, reduced, rest⟩ :=
    reducedDividend_encodesRest three negative finite finite' positive
  have encodes := Format.encodes_ofNat finite'
  have units := format.unitsAt_pos_iff.mpr positive
  have start : Traced.Reduces format (format.unitsAt dividend % (8 * format.unitsAt divisor))
      (format.unitsAt divisor) (2 * 2 ^ 2)
      ⟨⟨magnitude format pattern, 0, .none⟩, []⟩ := by
    refine ⟨_, 0, ⟨rest.magnitude, rfl, ?_⟩, Nat.mod_lt _ (by omega), ?_, Even.zero, le_rfl⟩
    · intro step none
      exact absurd none List.not_mem_nil
    · rw [Nat.zero_mul, Nat.add_zero]
  have fours := start.step three encodes units (by decide) (by decide)
  have twos : Traced.Reduces format _ _ (2 ^ 1) _ :=
    Traced.Reduces.step three encodes units le_rfl (by decide) fours
  unfold tracedReduce
  rw [reduced]
  exact twos.round three encodes

/-- The remainder with the sign of the dividend, and the last bits of the quotient. -/
theorem remquo_division :
    ∃ (pattern quotient : ℕ) (rest : ℤ) (flags : Flags),
      remquo format (format.signBit negative + dividend) (format.signBit negative' + divisor) =
          (pattern, signed (negative != negative') (quotient : ℤ), flags) ∧
        format.EncodesRest negative pattern rest ∧
        NearestDivision (format.unitsAt dividend) (format.unitsAt divisor)
          (8 * (format.unitsAt dividend / (8 * format.unitsAt divisor)) + quotient) rest ∧
        quotient ≤ 8 ∧
        (tracedReduce format (format.signBit negative + dividend) divisor).IsExact format := by
  obtain ⟨rest, quotient, state, division, small⟩ :=
    tracedReduce_rounds three negative finite finite' positive
  have inside := finite.trans format.infinityOrdinal_lt
  have inside' := finite'.trans format.infinityOrdinal_lt
  have reduction := tracedReduce_reduction format (format.signBit negative + dividend) divisor
  have divides : NearestDivision (format.unitsAt dividend) (format.unitsAt divisor)
      (8 * (format.unitsAt dividend / (8 * format.unitsAt divisor)) + quotient) rest := by
    have whole := division.add_even_mul
      (even_two.mul_right (4 * (format.unitsAt dividend / (8 * format.unitsAt divisor))))
    rw [← mul_assoc] at whole
    rwa [show 2 * 4 = 8 from rfl, mul_right_comm, Nat.div_add_mod] at whole
  have encodes := state.encodes.restOf negative
  have count := state.quotient_eq
  rw [reduction] at encodes count
  refine ⟨_, quotient, rest, (reduce format (format.signBit negative + dividend) divisor).flags,
    ?_, encodes, divides, small, state.isExact⟩
  have sign : (if negative = negative' then (quotient : ℤ) else -quotient) =
      signed (negative != negative') (quotient : ℤ) := by
    cases negative <;> cases negative' <;> rfl
  unfold remquo
  rw [format.isNaN_signBit_add _ finite, format.isNaN_signBit_add _ finite',
    format.isInfinite_signBit_add _ finite, format.isInfinite_signBit_add _ finite',
    Format.isZero, magnitude, format.magnitudeField_signBit_add _ inside',
    format.isNegative_signBit_add _ inside, format.isNegative_signBit_add _ inside',
    if_neg (by simp [positive.ne']), if_neg Bool.false_ne_true]
  dsimp only
  rw [count, sign]

end LibmAudit.Native
