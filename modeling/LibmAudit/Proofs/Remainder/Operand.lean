/-
**Patterns as operands.**

* `Format.scaled?_eq`: the significand and the place that are read from a finite pattern.
* `Number.read_signBit_add`: the number that is read from a finite pattern.
* `Outcome.HasValue`: an outcome that is a number in exact arithmetic.
* `Number.Gives`: an operand that is a number. `Number.gives_signBit_add`: finite patterns are.
* `Number.Gives.add`, `mul`: sums and products are exact.
-/

import LibmAudit.Native.Arithmetic
import LibmAudit.Proofs.Dyadic
import LibmAudit.Proofs.Rounding.Range

namespace LibmAudit

attribute [local instance (high)] instPowNat

/-! ## Reading -/

/-- The dyadic number with a sign and the magnitude with a number. -/
def Format.dyadicAt (format : Format) (negative : Bool) (ordinal : ℕ) : Dyadic :=
  ⟨negative, format.significandAt ordinal, format.placeAt ordinal⟩

/-- A finite pattern, of any width, has the significand and the place of its number. -/
theorem Format.scaled?_eq (format : Format) {pattern : ℤ}
    (finite : format.isFinite pattern = true) :
    format.scaled? pattern =
      some (signed (format.isNegative pattern)
          (format.significandAt (format.magnitudeField pattern) : ℤ),
        format.placeAt (format.magnitudeField pattern)) := by
  have mask := format.exponentMask_eq
  have below : format.magnitudeField pattern / 2 ^ format.fractionBits < format.exponentMask := by
    rw [isFinite_iff] at finite
    exact Nat.div_lt_of_lt_mul (by rwa [mul_comm])
  unfold scaled? placeAt placeIndexAt significandAt signed
  simp only [exponentField_eq, fractionField_eq]
  generalize format.magnitudeField pattern / 2 ^ format.fractionBits = field at below
  by_cases subnormal : field = 0
  · rw [if_pos subnormal, if_pos subnormal, subnormal]
    simp [lowestPlace]
  · have place : (field : ℤ) - format.bias - format.fractionBits =
        format.lowestPlace + ((field - 1 : ℕ) : ℤ) := by
      unfold bias lowestPlace emin
      omega
    rw [if_neg subnormal, if_neg subnormal, if_pos (by omega), place]

namespace Number

variable {format : Format}

theorem scaled?_signBit_add (negative : Bool) {ordinal : ℕ}
    (finite : ordinal < format.infinityOrdinal) :
    format.scaled? (format.signBit negative + ordinal : ℕ) =
      some (if negative then -(format.significandAt ordinal : ℤ) else format.significandAt ordinal,
        format.placeAt ordinal) := by
  have small := finite.trans format.infinityOrdinal_lt
  rw [format.scaled?_eq (format.isFinite_signBit_add negative finite),
    format.isNegative_signBit_add negative small, format.magnitudeField_signBit_add negative small]
  rfl

/-- The number of a finite pattern. -/
theorem read_signBit_add (negative : Bool) {ordinal : ℕ}
    (finite : ordinal < format.infinityOrdinal) :
    read format (format.signBit negative + ordinal : ℕ) =
      if ordinal = 0 then zero negative else .finite (format.dyadicAt negative ordinal) := by
  have small := finite.trans format.infinityOrdinal_lt
  have zero_iff : format.significandAt ordinal = 0 ↔ ordinal = 0 := by
    constructor
    · intro zero
      have magnitude : format.magnitudeAt ordinal = 0 := by
        rw [Format.magnitudeAt, zero, Nat.cast_zero, zero_mul]
      by_contra nonzero
      exact (format.magnitudeAt_pos (Nat.pos_of_ne_zero nonzero)).ne' magnitude
    · rintro rfl
      simp [Format.significandAt]
  unfold read
  rw [format.isNaN_signBit_add _ finite, scaled?_signBit_add negative finite,
    format.isNegative_signBit_add _ small]
  dsimp only
  rw [if_neg Bool.false_ne_true]
  unfold Format.dyadicAt
  cases negative <;> simp [zero_iff]

end Number

namespace Format

variable (format : Format)

theorem dyadicAt_magnitude (negative : Bool) (ordinal : ℕ) :
    (format.dyadicAt negative ordinal).magnitude = format.magnitudeAt ordinal := rfl

theorem dyadicAt_significand {ordinal : ℕ} (negative : Bool) (positive : 0 < ordinal) :
    (format.dyadicAt negative ordinal).significand ≠ 0 := by
  rw [Dyadic.significand_ne_zero_iff, dyadicAt_magnitude]
  exact (format.magnitudeAt_pos positive).ne'

end Format

/-! ## Exact outcomes -/

/-- The outcome is this number, which is not zero. -/
def Outcome.HasValue (outcome : Outcome) (y : ℝ) : Prop :=
  ∃ value : Dyadic, outcome = .exact value ∧ value.significand ≠ 0 ∧ value.toReal = y

namespace Dyadic

theorem hasValue_exact {value : Dyadic} (nonzero : value.significand ≠ 0) :
    (Outcome.exact value).HasValue value.toReal := ⟨value, rfl, nonzero, rfl⟩

theorem toReal_ne_zero (value : Dyadic) (nonzero : value.significand ≠ 0) :
    value.toReal ≠ 0 := by
  have magnitude := (magnitude_pos nonzero).ne'
  unfold toReal
  cases value.negative
  · exact magnitude
  · exact neg_ne_zero.mpr magnitude

theorem ne_zero_of_hasValue {outcome : Outcome} {y : ℝ} (value : outcome.HasValue y) : y ≠ 0 := by
  obtain ⟨number, -, nonzero, rfl⟩ := value
  exact number.toReal_ne_zero nonzero

theorem signed_mul (number : Dyadic) :
    (number.signed : ℝ) * 2 ^ number.exponent = number.toReal := by
  unfold signed toReal magnitude
  cases number.negative
  · simp [LibmAudit.signed]
  · simp [LibmAudit.signed]

/-- A multiple of a power of two as a multiple of a lower one. -/
theorem mul_two_pow_sub (multiple : ℤ) {place exponent : ℤ} (le : place ≤ exponent) :
    ((multiple * (2 ^ (exponent - place).toNat : ℕ) : ℤ) : ℝ) * 2 ^ place =
      multiple * 2 ^ exponent := by
  have split : exponent = ((exponent - place).toNat : ℤ) + place := by omega
  conv_rhs => rw [split, zpow_add₀ two_ne_zero, zpow_natCast]
  push_cast
  ring

/-- Two numbers over one power of two. -/
theorem align_mul (first second : Dyadic) :
    ((first.align second).1 : ℝ) * 2 ^ (first.align second).2.2 = first.toReal ∧
      ((first.align second).2.1 : ℝ) * 2 ^ (first.align second).2.2 = second.toReal := by
  unfold align
  dsimp only
  rw [mul_two_pow_sub _ (min_le_left _ _), mul_two_pow_sub _ (min_le_right _ _), signed_mul,
    signed_mul]
  exact ⟨rfl, rfl⟩

theorem hasValue_ofMultiple {multiple : ℤ} (place : ℤ) (ifZero : Outcome)
    (nonzero : multiple ≠ 0) :
    (Outcome.ofMultiple multiple place ifZero).HasValue (multiple * 2 ^ place) := by
  rw [Outcome.ofMultiple, if_neg nonzero]
  refine ⟨_, rfl, Int.natAbs_ne_zero.mpr nonzero, ?_⟩
  rw [← signed_mul]
  congr 2
  unfold signed
  dsimp only
  by_cases negative : multiple < 0
  · rw [if_pos (decide_eq_true negative)]
    omega
  · rw [if_neg (by simpa using negative)]
    omega

/-- The sum of two numbers is exact. -/
theorem add_eq (first second : Dyadic) :
    (first.toReal + second.toReal = 0 ∧ first.add second = .cancelled) ∨
      (first.toReal + second.toReal ≠ 0 ∧
        (first.add second).HasValue (first.toReal + second.toReal)) := by
  obtain ⟨left, right⟩ := align_mul first second
  have unit : (2 : ℝ) ^ (first.align second).2.2 ≠ 0 := by positivity
  rw [← left, ← right, ← add_mul]
  unfold add
  by_cases zero : (first.align second).1 + (first.align second).2.1 = 0
  · refine Or.inl ⟨?_, ?_⟩
    · rw [← Int.cast_add, zero, Int.cast_zero, zero_mul]
    · dsimp only
      rw [zero, Outcome.ofMultiple, if_pos rfl]
  · refine Or.inr ⟨mul_ne_zero (by exact_mod_cast zero) unit, ?_⟩
    rw [← Int.cast_add]
    exact hasValue_ofMultiple _ _ zero

theorem mul_toReal (first second : Dyadic) :
    (first.mul second).toReal = first.toReal * second.toReal := by
  unfold mul toReal magnitude
  dsimp only
  rw [zpow_add₀ two_ne_zero]
  cases first.negative <;> cases second.negative <;>
    simp only [LibmAudit.signed, bne_self_eq_false, Bool.false_eq_true, if_false, if_true,
      Bool.true_bne, Bool.not_false, Bool.false_bne] <;> push_cast <;> ring

theorem neg_toReal (number : Dyadic) : number.neg.toReal = -number.toReal := by
  unfold neg toReal magnitude
  dsimp only
  cases number.negative <;> simp [LibmAudit.signed]

end Dyadic

/-! ## Sums and products of numbers -/

namespace Number

/-- The number is this one; a zero may have either sign. -/
def Gives (number : Number) (y : ℝ) : Prop :=
  (y = 0 ∧ ∃ negative, number = .zero negative) ∨
    ∃ value : Dyadic, number = .finite value ∧ value.significand ≠ 0 ∧ value.toReal = y

variable {first second : Number} {y z : ℝ}

/-- A pattern stands for its magnitude with its sign. -/
theorem gives_signBit_add (negative : Bool) {ordinal : ℕ}
    (finite : ordinal < format.infinityOrdinal) :
    (read format (format.signBit negative + ordinal : ℕ)).Gives
      (signed negative (format.magnitudeAt ordinal)) := by
  rw [read_signBit_add negative finite]
  rcases Nat.eq_zero_or_pos ordinal with rfl | positive
  · rw [if_pos rfl, format.magnitudeAt_zero]
    exact Or.inl ⟨signed_zero negative, negative, rfl⟩
  · rw [if_neg positive.ne']
    exact Or.inr ⟨_, rfl, format.dyadicAt_significand negative positive, rfl⟩

theorem Gives.neg (gives : first.Gives y) : first.neg.Gives (-y) := by
  rcases gives with ⟨rfl, negative, rfl⟩ | ⟨value, rfl, nonzero, rfl⟩
  · exact Or.inl ⟨neg_zero, _, rfl⟩
  · exact Or.inr ⟨_, rfl, nonzero, value.neg_toReal⟩

/-- A sum is exact. A zero sum that is no sum of equal zeros has no sign of its own. -/
theorem Gives.add (gives : first.Gives y) (gives' : second.Gives z) :
    (y + z ≠ 0 ∧ (first.add second).HasValue (y + z)) ∨
      (y + z = 0 ∧ (first.add second = .cancelled ∨
        ∃ negative, first = .zero negative ∧ second = .zero negative ∧
          first.add second = .zero negative)) := by
  rcases gives with ⟨rfl, negative, rfl⟩ | ⟨value, rfl, nonzero, rfl⟩ <;>
    rcases gives' with ⟨rfl, negative', rfl⟩ | ⟨value', rfl, nonzero', rfl⟩
  · refine Or.inr ⟨add_zero _, ?_⟩
    by_cases same : negative = negative'
    · subst same
      exact Or.inr ⟨negative, rfl, rfl, if_pos rfl⟩
    · exact Or.inl (if_neg same)
  · rw [zero_add]
    exact Or.inl ⟨value'.toReal_ne_zero nonzero', Dyadic.hasValue_exact nonzero'⟩
  · rw [add_zero]
    exact Or.inl ⟨value.toReal_ne_zero nonzero, Dyadic.hasValue_exact nonzero⟩
  · rcases Dyadic.add_eq value value' with ⟨zero, cancelled⟩ | ⟨nonzero, sum⟩
    · exact Or.inr ⟨zero, Or.inl cancelled⟩
    · exact Or.inl ⟨nonzero, sum⟩

/-- The product of numbers that are not zero is exact. -/
theorem Gives.mul (gives : first.Gives y) (gives' : second.Gives z) (left : y ≠ 0)
    (right : z ≠ 0) : (first.mul second).HasValue (y * z) := by
  obtain ⟨value, rfl, nonzero, rfl⟩ := gives.resolve_left fun zero => left zero.1
  obtain ⟨value', rfl, nonzero', rfl⟩ := gives'.resolve_left fun zero => right zero.1
  rw [← Dyadic.mul_toReal]
  exact Dyadic.hasValue_exact (Nat.mul_ne_zero nonzero nonzero')

end Number

end LibmAudit
