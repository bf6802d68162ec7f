/-
**Patterns as a sign and a number.**

The bits of a pattern below the sign bit are the number of its magnitude. The fields and the classes
of a pattern can be read off that number, and a pattern of the format is its sign bit plus the
number.

* `Format.exponentField_eq`, `fractionField_eq`: the fields of the number.
* `Format.isNaN_iff`, `isInfinite_iff`, `isFinite_iff`: the classes, by comparison with the number
  of the infinities.
* `Format.signBit_add_magnitudeField`: a pattern from its sign and its number.
* `Format.isNegative_signBit_add`, `magnitudeField_signBit_add`: the way back.
* `Format.exists_signBit_add`, `eq_zero_of_isZero`, `eq_infinity_of_isInfinite`: the patterns of a
  class.
-/

import LibmAudit.Proofs.Magnitude

namespace LibmAudit.Format

attribute [local instance (high)] instPowNat

variable (format : Format)

/-! ## Widths -/

theorem two_pow_pred_totalBits : 2 ^ (format.totalBits - 1) =
    2 ^ format.exponentBits * 2 ^ format.fractionBits := by
  rw [← pow_add, format.totalBits_eq, Nat.add_sub_cancel]

theorem two_pow_totalBits : 2 ^ format.totalBits = 2 * 2 ^ (format.totalBits - 1) := by
  rw [← pow_succ', Nat.sub_add_cancel (by rw [format.totalBits_eq]; omega)]

theorem one_le_exponentMask : 1 ≤ format.exponentMask := by
  have := format.exponentMask_eq
  have := format.one_le_emax
  omega

theorem exponentMask_add_one : format.exponentMask + 1 = 2 ^ format.exponentBits :=
  Nat.sub_add_cancel (Nat.two_pow_pos _)

/-- There are as many NaNs above the infinities as there are fractions but zero. -/
theorem infinityOrdinal_add :
    format.infinityOrdinal + 2 ^ format.fractionBits = 2 ^ (format.totalBits - 1) := by
  rw [two_pow_pred_totalBits, ← exponentMask_add_one, infinityOrdinal, Nat.add_mul, Nat.one_mul]

theorem infinityOrdinal_lt : format.infinityOrdinal < 2 ^ (format.totalBits - 1) := by
  have := format.infinityOrdinal_add
  have := Nat.two_pow_pos format.fractionBits
  omega

theorem two_pow_fractionBits_le_infinityOrdinal :
    2 ^ format.fractionBits ≤ format.infinityOrdinal :=
  Nat.le_mul_of_pos_left _ format.one_le_exponentMask

/-! ## Fields -/

theorem magnitudeField_lt (pattern : ℤ) :
    format.magnitudeField pattern < 2 ^ (format.totalBits - 1) := by
  have positive : (0 : ℤ) < (2 ^ (format.totalBits - 1) : ℕ) := by exact_mod_cast Nat.two_pow_pos _
  have := Int.emod_lt_of_pos pattern positive
  have := Int.emod_nonneg pattern positive.ne'
  unfold magnitudeField lowBits
  omega

theorem magnitudeField_cast (pattern : ℤ) :
    (format.magnitudeField pattern : ℤ) = pattern % (2 ^ (format.totalBits - 1) : ℕ) :=
  Int.toNat_of_nonneg (Int.emod_nonneg _ (by exact_mod_cast (Nat.two_pow_pos _).ne'))

/-- Dividing a residue takes the residue of the quotient. -/
theorem emod_mul_ediv (value : ℤ) {first second : ℤ} (positive : 0 < first) (other : 0 < second) :
    value % (first * second) / first = value / first % second := by
  have rest : 0 ≤ value % (first * second) := Int.emod_nonneg _ (by positivity)
  have small : value % (first * second) < first * second := Int.emod_lt_of_pos _ (by positivity)
  conv_rhs => rw [← Int.emod_add_mul_ediv value (first * second), mul_assoc,
    Int.add_mul_ediv_left _ _ positive.ne', Int.add_mul_emod_self_left]
  rw [Int.emod_eq_of_lt (Int.ediv_nonneg rest positive.le)]
  exact Int.ediv_lt_of_lt_mul positive (small.trans_eq (mul_comm first second))

/-- The exponent field is the upper part of the number. -/
theorem exponentField_eq (pattern : ℤ) :
    format.exponentField pattern = format.magnitudeField pattern / 2 ^ format.fractionBits := by
  have width : ((2 ^ (format.totalBits - 1) : ℕ) : ℤ) =
      (2 ^ format.fractionBits : ℕ) * (2 ^ format.exponentBits : ℕ) := by
    rw [two_pow_pred_totalBits, mul_comm, Nat.cast_mul]
  have field : (format.exponentField pattern : ℤ) =
      pattern / (2 ^ format.fractionBits : ℕ) % (2 ^ format.exponentBits : ℕ) :=
    Int.toNat_of_nonneg (Int.emod_nonneg _ (by positivity))
  apply Int.natCast_inj.mp
  rw [field, Int.natCast_ediv, magnitudeField_cast, width,
    emod_mul_ediv _ (by positivity) (by positivity)]

/-- The fraction field is the lower part of the number. -/
theorem fractionField_eq (pattern : ℤ) :
    format.fractionField pattern = format.magnitudeField pattern % 2 ^ format.fractionBits := by
  have divides : ((2 ^ format.fractionBits : ℕ) : ℤ) ∣ (2 ^ (format.totalBits - 1) : ℕ) := by
    rw [two_pow_pred_totalBits]
    exact_mod_cast dvd_mul_left _ _
  have field : (format.fractionField pattern : ℤ) = pattern % (2 ^ format.fractionBits : ℕ) :=
    Int.toNat_of_nonneg (Int.emod_nonneg _ (by positivity))
  apply Int.natCast_inj.mp
  rw [field, Int.natCast_emod, magnitudeField_cast, Int.emod_emod_of_dvd _ divides]

theorem fractionField_lt (pattern : ℤ) :
    format.fractionField pattern < 2 ^ format.fractionBits := by
  rw [fractionField_eq]
  exact Nat.mod_lt _ (Nat.two_pow_pos _)

theorem exponentField_lt (pattern : ℤ) :
    format.exponentField pattern < 2 ^ format.exponentBits := by
  rw [exponentField_eq]
  refine Nat.div_lt_of_lt_mul ?_
  rw [mul_comm, ← two_pow_pred_totalBits]
  exact format.magnitudeField_lt pattern

/-! ## Classes -/

/-- Both fields are zero for zeros only. -/
theorem fields_eq_zero_iff (pattern : ℤ) :
    format.exponentField pattern = 0 ∧ format.fractionField pattern = 0 ↔
      format.magnitudeField pattern = 0 := by
  have split := Nat.div_add_mod' (format.magnitudeField pattern) (2 ^ format.fractionBits)
  rw [exponentField_eq, fractionField_eq]
  constructor
  · rintro ⟨field, fraction⟩
    rw [← split, field, fraction, zero_mul]
  · intro zero
    rw [zero, Nat.zero_div, Nat.zero_mod]
    exact ⟨rfl, rfl⟩

theorem exponentField_eq_mask_iff (pattern : ℤ) :
    format.exponentField pattern = format.exponentMask ↔
      format.infinityOrdinal ≤ format.magnitudeField pattern := by
  have positive := Nat.two_pow_pos format.fractionBits
  have small := format.magnitudeField_lt pattern
  rw [two_pow_pred_totalBits, ← exponentMask_add_one] at small
  rw [exponentField_eq, infinityOrdinal, ← Nat.le_div_iff_mul_le positive]
  have := Nat.div_lt_of_lt_mul (m := format.magnitudeField pattern)
    (n := 2 ^ format.fractionBits) (k := format.exponentMask + 1) (by rwa [mul_comm])
  omega

theorem isFinite_iff (pattern : ℤ) :
    format.isFinite pattern = true ↔ format.magnitudeField pattern < format.infinityOrdinal := by
  rw [isFinite, bne_iff_ne, Ne, exponentField_eq_mask_iff, not_le]

theorem isInfinite_iff (pattern : ℤ) :
    format.isInfinite pattern = true ↔ format.magnitudeField pattern = format.infinityOrdinal := by
  have split := Nat.div_add_mod' (format.magnitudeField pattern) (2 ^ format.fractionBits)
  rw [isInfinite, Bool.and_eq_true, beq_iff_eq, beq_iff_eq, exponentField_eq, fractionField_eq]
  unfold infinityOrdinal
  constructor
  · rintro ⟨field, fraction⟩
    rw [← split, field, fraction, Nat.add_zero]
  · intro ordinal
    rw [ordinal]
    exact ⟨Nat.mul_div_cancel _ (Nat.two_pow_pos _), Nat.mul_mod_left ..⟩

theorem isNaN_iff (pattern : ℤ) :
    format.isNaN pattern = true ↔ format.infinityOrdinal < format.magnitudeField pattern := by
  have infinite := format.isInfinite_iff pattern
  have field := format.exponentField_eq_mask_iff pattern
  rw [isInfinite, Bool.and_eq_true, beq_iff_eq, beq_iff_eq] at infinite
  rw [isNaN, Bool.and_eq_true, beq_iff_eq, bne_iff_ne, field, lt_iff_le_and_ne]
  rw [field] at infinite
  tauto

theorem isZero_iff (pattern : ℤ) :
    format.isZero pattern = true ↔ format.magnitudeField pattern = 0 := beq_iff_eq

theorem isNaN_eq_false_iff (pattern : ℤ) :
    format.isNaN pattern = false ↔ format.magnitudeField pattern ≤ format.infinityOrdinal := by
  rw [Bool.eq_false_iff, Ne, isNaN_iff, not_lt]

/-! ## Sign and number -/

theorem signBit_le (negative : Bool) : format.signBit negative ≤ 2 ^ (format.totalBits - 1) := by
  unfold signBit
  split
  · exact le_rfl
  · exact Nat.zero_le _

/-- The sign and the number of a pattern that is given by them. -/
theorem isNegative_signBit_add (negative : Bool) {ordinal : ℕ}
    (small : ordinal < 2 ^ (format.totalBits - 1)) :
    format.isNegative (format.signBit negative + ordinal : ℕ) = negative := by
  have positive := Nat.two_pow_pos (format.totalBits - 1)
  unfold isNegative bitAt dropBits signBit
  cases negative
  · rw [if_neg (by decide), Nat.zero_add, ← Int.natCast_ediv, Nat.div_eq_of_lt small]
    rfl
  · rw [if_pos rfl, ← Int.natCast_ediv, Nat.add_div_left _ positive, Nat.div_eq_of_lt small]
    rfl

theorem magnitudeField_signBit_add (negative : Bool) {ordinal : ℕ}
    (small : ordinal < 2 ^ (format.totalBits - 1)) :
    format.magnitudeField (format.signBit negative + ordinal : ℕ) = ordinal := by
  unfold magnitudeField lowBits signBit
  rw [← Int.natCast_emod, Int.toNat_natCast]
  cases negative
  · rw [if_neg (by decide), Nat.zero_add, Nat.mod_eq_of_lt small]
  · rw [if_pos rfl, Nat.add_mod_left, Nat.mod_eq_of_lt small]

theorem isZero_zero (negative : Bool) : format.isZero (format.zero negative) = true :=
  (format.isZero_iff _).mpr
    (format.magnitudeField_signBit_add negative (Nat.two_pow_pos (format.totalBits - 1)))

theorem signBit_add_lt (negative : Bool) {ordinal : ℕ}
    (small : ordinal < 2 ^ (format.totalBits - 1)) :
    format.signBit negative + ordinal < 2 ^ format.totalBits := by
  have := format.signBit_le negative
  rw [two_pow_totalBits]
  omega

/-- A pattern of the format is its sign bit and its number. -/
theorem signBit_add_magnitudeField {pattern : ℕ} (fits : pattern < 2 ^ format.totalBits) :
    format.signBit (format.isNegative pattern) + format.magnitudeField pattern = pattern := by
  have positive := Nat.two_pow_pos (format.totalBits - 1)
  have split := Nat.div_add_mod' pattern (2 ^ (format.totalBits - 1))
  rw [two_pow_totalBits, mul_comm] at fits
  have quotient := Nat.div_lt_of_lt_mul fits
  unfold isNegative bitAt dropBits magnitudeField lowBits signBit
  rw [← Int.natCast_ediv, ← Int.natCast_emod, Int.toNat_natCast]
  rcases Nat.lt_or_ge pattern (2 ^ (format.totalBits - 1)) with below | above
  · rw [Nat.div_eq_of_lt below, Nat.mod_eq_of_lt below]
    simp
  · have one : pattern / 2 ^ (format.totalBits - 1) = 1 :=
      le_antisymm (by omega) ((Nat.one_le_div_iff positive).mpr above)
    rw [one] at split ⊢
    simpa using split

/-- The sign bit does not change whether a pattern is even. -/
theorem even_signBit_add_iff (negative : Bool) (ordinal : ℕ) :
    Even (format.signBit negative + ordinal) ↔ Even ordinal := by
  have even : Even (format.signBit negative) := by
    unfold signBit
    split
    · have := format.fractionBits_pos
      have := format.totalBits_eq
      exact even_two.pow_of_ne_zero (by omega)
    · exact Even.zero
  rw [Nat.even_add, iff_true_left even]

section

variable {format} {pattern : ℕ}

/-- A finite pattern as a sign and the number of a finite magnitude. -/
theorem exists_signBit_add (fits : pattern < 2 ^ format.totalBits)
    (finite : format.isFinite pattern = true) :
    ∃ negative, ∃ ordinal < format.infinityOrdinal,
      format.magnitudeField pattern = ordinal ∧ pattern = format.signBit negative + ordinal := by
  have whole := format.signBit_add_magnitudeField fits
  exact ⟨_, _, (format.isFinite_iff pattern).mp finite, rfl, whole.symm⟩

theorem eq_zero_of_isZero (fits : pattern < 2 ^ format.totalBits)
    (zero : format.isZero pattern = true) :
    pattern = format.zero (format.isNegative pattern) := by
  have whole := format.signBit_add_magnitudeField fits
  rw [(format.isZero_iff pattern).mp zero] at whole
  exact whole.symm

theorem eq_infinity_of_isInfinite (fits : pattern < 2 ^ format.totalBits)
    (infinite : format.isInfinite pattern = true) :
    pattern = format.infinity (format.isNegative pattern) := by
  have whole := format.signBit_add_magnitudeField fits
  rw [(format.isInfinite_iff pattern).mp infinite] at whole
  exact whole.symm

/-- A pattern that is no NaN and no infinity is finite. -/
theorem isFinite_of_number {pattern : ℤ} (number : format.isNaN pattern = false)
    (bounded : format.isInfinite pattern = false) : format.isFinite pattern = true := by
  rw [isNaN_eq_false_iff] at number
  rw [Bool.eq_false_iff, Ne, isInfinite_iff] at bounded
  rw [isFinite_iff]
  exact lt_of_le_of_ne number bounded

end

end LibmAudit.Format
