/-
**Rests with the sign of their dividend.**

A rest is counted in the direction of the dividend: it is negative when more than the dividend has
been taken away. A zero rest keeps the sign of the dividend.

* `Format.EncodesRest`: the pattern of a rest.
* `Format.EncodesRest.unique`: a rest has one pattern.
* `Format.Encodes.restOf`: the machine gives the sign of the dividend to a rest.
* `Native.ofOutcome_rest`: an exact outcome that is a rest becomes its pattern.
-/

import LibmAudit.Proofs.Remainder.Division
import LibmAudit.Proofs.Remainder.Machine

namespace LibmAudit

attribute [local instance (high)] instPowNat

namespace Format

/-- The pattern of a rest of a dividend with this sign. -/
def EncodesRest (format : Format) (negative : Bool) (pattern : ℕ) (rest : ℤ) : Prop :=
  ∃ ordinal < format.infinityOrdinal,
    pattern = format.signBit (negative != decide (rest < 0)) + ordinal ∧
      format.unitsAt ordinal = rest.natAbs

variable {format : Format} {negative : Bool} {pattern other : ℕ} {rest : ℤ}

namespace EncodesRest

/-- A rest has one pattern. -/
theorem unique (encodes : format.EncodesRest negative pattern rest)
    (encodes' : format.EncodesRest negative other rest) : pattern = other := by
  obtain ⟨ordinal, -, rfl, same⟩ := encodes
  obtain ⟨ordinal', -, rfl, same'⟩ := encodes'
  rw [format.unitsAt_strictMono.injective (same.trans same'.symm)]

theorem isFinite (encodes : format.EncodesRest negative pattern rest) :
    format.isFinite pattern = true := by
  obtain ⟨ordinal, finite, rfl, -⟩ := encodes
  exact format.isFinite_signBit_add _ finite

/-- The rest as a number. -/
theorem realOf (encodes : format.EncodesRest negative pattern rest) :
    format.realOf pattern = signed negative (rest * 2 ^ format.lowestPlace : ℝ) := by
  obtain ⟨ordinal, finite, rfl, same⟩ := encodes
  rw [realOf_signBit_add _ _ finite, signed_units same]

/-- A negative rest has the other sign than its dividend. -/
theorem sign_eq (encodes : format.EncodesRest negative pattern rest) :
    format.isNegative pattern = (negative != decide (rest < 0)) := by
  obtain ⟨ordinal, finite, rfl, -⟩ := encodes
  exact format.isNegative_signBit_add _ (finite.trans format.infinityOrdinal_lt)

/-- A zero rest has the sign of the dividend. -/
theorem isNegative (encodes : format.EncodesRest negative pattern 0) :
    format.isNegative pattern = negative := by
  rw [encodes.sign_eq]
  exact Bool.xor_false negative

/-- The magnitude of a rest that is not beyond zero. -/
theorem magnitude {rest : ℕ} (encodes : format.EncodesRest negative pattern rest) :
    format.Encodes (Native.magnitude format pattern) rest := by
  obtain ⟨ordinal, finite, rfl, same⟩ := encodes
  have small := finite.trans format.infinityOrdinal_lt
  rw [Native.magnitude, format.magnitudeField_signBit_add _ small, ← Int.natAbs_natCast rest,
    ← same]
  exact encodes_ofNat finite

end EncodesRest

/-- A finite value is a rest of itself. -/
theorem encodesRest_signBit_add (negative : Bool) {ordinal : ℕ}
    (finite : ordinal < format.infinityOrdinal) :
    format.EncodesRest negative (format.signBit negative + ordinal) (format.unitsAt ordinal) := by
  refine ⟨ordinal, finite, ?_, rfl⟩
  rw [decide_eq_false (not_lt.mpr (Int.natCast_nonneg _))]
  simp

/-- With the sign changed for a negative dividend a multiple is a rest. -/
theorem Encodes.restOf (encodes : format.Encodes pattern rest) (negative : Bool) :
    format.EncodesRest negative
      (if negative then Native.withSign format (!format.isNegative pattern) pattern else pattern)
      rest := by
  have sign := encodes.isNegative
  obtain ⟨ordinal, finite, rfl, same⟩ := encodes
  refine ⟨ordinal, finite, ?_, same⟩
  cases negative
  · rw [if_neg Bool.false_ne_true, Bool.false_bne]
  · rw [if_pos rfl, Native.withSign, sign, Bool.true_bne,
      format.magnitudeField_signBit_add _ (finite.trans format.infinityOrdinal_lt), Nat.add_comm]

end Format

namespace Native

variable {format : Format} {negative : Bool} {rest : ℤ} {outcome : Outcome}

/-- The outcome of a division becomes the pattern of the rest, without an exception. -/
theorem ofOutcome_rest (holds : format.Holds rest)
    (division : (rest = 0 ∧ outcome = .zero negative) ∨
      (rest ≠ 0 ∧ outcome.HasValue (signed negative (rest * 2 ^ format.lowestPlace)))) :
    ∃ pattern, ofOutcome format outcome = ⟨pattern, .none⟩ ∧
      format.EncodesRest negative pattern rest := by
  rcases division with ⟨rfl, rfl⟩ | ⟨-, value⟩
  · refine ⟨format.zero negative, rfl, 0, format.infinityOrdinal_pos, ?_, format.unitsAt_zero⟩
    exact (congrArg format.signBit (Bool.xor_false negative)).symm
  · obtain ⟨ordinal, finite, same, rounded⟩ := holds.ofOutcome_signed value
    exact ⟨_, rounded, ordinal, finite, rfl, same⟩

/-- The remainder of the quotient cut toward zero is exact. -/
theorem fmod_encodesRest (negative : Bool) {dividend divisor : ℕ}
    (finite : dividend < format.infinityOrdinal) (finite' : divisor < format.infinityOrdinal)
    (positive : 0 < divisor) :
    ∃ pattern, fmod format (format.signBit negative + dividend : ℕ) divisor = ⟨pattern, .none⟩ ∧
      format.EncodesRest negative pattern
        (format.unitsAt dividend % format.unitsAt divisor : ℕ) := by
  have grid := (Format.encodes_ofNat finite).onGrid.mod (Format.encodes_ofNat finite').onGrid
  have small := format.unitsAt_strictMono finite
  have le := Nat.mod_le (format.unitsAt dividend) (format.unitsAt divisor)
  have holds : format.Holds (format.unitsAt dividend % format.unitsAt divisor : ℕ) :=
    Format.OnGrid.holds grid (by omega)
  have read : Number.read format (divisor : ℕ) = .finite (format.dyadicAt false divisor) := by
    have number := Number.read_signBit_add false finite'
    rwa [if_neg positive.ne', Format.signBit, if_neg Bool.false_ne_true, Nat.zero_add] at number
  refine ofOutcome_rest holds ?_
  rw [Number.read_signBit_add negative finite, read]
  rcases Nat.eq_zero_or_pos dividend with rfl | nonzero
  · rw [format.unitsAt_zero, Nat.zero_mod, if_pos rfl]
    exact Or.inl ⟨rfl, rfl⟩
  · rw [if_neg nonzero.ne']
    exact Division.outcome_eq format negative
      (by exact_mod_cast Division.truncated_units format negative false dividend divisor)

end Native

end LibmAudit
