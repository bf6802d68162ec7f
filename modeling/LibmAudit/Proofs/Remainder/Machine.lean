/-
**Machine operations that do not round.**

* `Format.Encodes`: the pattern of a multiple of the lowest place; zero is positive.
* `Native.ofOutcome_of_hasValue`: an exact outcome that is a magnitude keeps its number, up to that
  of the infinities.
* `Format.Encodes.sub`, `add`: a difference or a sum on the grid is exact.
* `Format.Encodes.mul`: a product on the grid is exact or an infinity.
* `Format.Encodes.atLeast_iff`, `above_iff`: comparisons of patterns compare the multiples.
-/

import LibmAudit.Native.Remainder
import LibmAudit.Proofs.Remainder.Grid
import LibmAudit.Proofs.Remainder.Operand
import LibmAudit.Proofs.Rounding.Exact

namespace LibmAudit

attribute [local instance (high)] instPowNat

/-! ## Outcomes -/

namespace Native

variable {format : Format}

variable (format) in
theorem nearest_eq (negative : Bool) {significand : ℕ} {exponent : ℤ} {x : ℝ}
    (nonzero : significand ≠ 0) (same : significand * 2 ^ exponent = x) :
    nearest format negative (Truncation.exact significand exponent) =
      format.roundReal .nearestEven negative x := by
  have split : exponent = ((format.precision + 2 - bitLength significand : ℕ) : ℤ) +
      (exponent - (format.precision + 2 - bitLength significand : ℕ)) := by
    omega
  have given : StandsFor (significand * 2 ^ (format.precision + 2 - bitLength significand))
      (exponent - (format.precision + 2 - bitLength significand : ℕ)) false x := by
    change x = _
    rw [← same]
    conv_lhs => rw [split, zpow_add₀ two_ne_zero, zpow_natCast]
    push_cast
    ring
  exact Format.roundAt_eq .nearestEven negative given
    (Nat.mul_ne_zero nonzero (Nat.two_pow_pos _).ne') (Or.inr rfl)

/-- An outcome that is a magnitude with a sign. -/
theorem ofOutcome_of_hasValue {outcome : Outcome} {negative : Bool} {ordinal : ℕ}
    (positive : 0 < ordinal)
    (value : outcome.HasValue (signed negative (format.magnitudeAt ordinal))) :
    (ofOutcome format outcome).pattern =
        format.signBit negative + min ordinal format.infinityOrdinal ∧
      (ordinal < format.infinityOrdinal → (ofOutcome format outcome).flags = .none) := by
  obtain ⟨number, rfl, nonzero, same⟩ := value
  obtain ⟨sign, magnitude⟩ := signed_eq_signed (Dyadic.magnitude_pos nonzero).le
    (format.magnitudeAt_pos positive) same
  have rounded := nearest_eq format number.negative nonzero magnitude
  unfold ofOutcome Outcome.exact
  dsimp only
  rw [rounded, sign]
  constructor
  · rw [format.roundReal_pattern, format.ordinalOf_magnitudeAt _ _ positive]
    rfl
  · intro finite
    rw [format.roundReal_magnitudeAt _ _ positive finite]
    rfl

end Native

/-! ## Patterns of multiples -/

namespace Format

/-- The pattern of a multiple of the lowest place. Zero is positive. -/
def Encodes (format : Format) (pattern : ℕ) (units : ℤ) : Prop :=
  ∃ ordinal < format.infinityOrdinal, pattern = format.signBit (decide (units < 0)) + ordinal ∧
    format.unitsAt ordinal = units.natAbs

variable {format : Format} {pattern other : ℕ} {units units' : ℤ}

theorem signed_unitsAt {ordinal : ℕ} (same : format.unitsAt ordinal = units.natAbs) :
    signed (decide (units < 0)) (format.magnitudeAt ordinal) = units * 2 ^ format.lowestPlace := by
  rw [magnitudeAt_eq_unitsAt, same]
  by_cases negative : units < 0
  · have flip : ((units.natAbs : ℕ) : ℝ) = -(units : ℝ) := by
      rw [Nat.cast_natAbs, abs_of_neg negative, Int.cast_neg]
    rw [decide_eq_true negative, flip]
    simp [signed]
  · have keep : ((units.natAbs : ℕ) : ℝ) = (units : ℝ) := by
      rw [Nat.cast_natAbs, abs_of_nonneg (not_lt.mp negative)]
    rw [decide_eq_false negative, keep]
    rfl

/-- A multiple with a sign of its own and another one. -/
theorem signed_units {negative : Bool} {ordinal : ℕ}
    (same : format.unitsAt ordinal = units.natAbs) :
    signed negative (units * 2 ^ format.lowestPlace : ℝ) =
      signed (negative != decide (units < 0)) (format.magnitudeAt ordinal) := by
  rw [← signed_unitsAt same]
  cases negative <;> cases decide (units < 0) <;> simp [signed]

theorem encodes_ofNat {ordinal : ℕ} (finite : ordinal < format.infinityOrdinal) :
    format.Encodes ordinal (format.unitsAt ordinal) :=
  ⟨ordinal, finite, by simp [signBit], rfl⟩

namespace Encodes

theorem gives (encodes : format.Encodes pattern units) :
    (Number.read format pattern).Gives (units * 2 ^ format.lowestPlace) := by
  obtain ⟨ordinal, finite, rfl, same⟩ := encodes
  rw [← signed_unitsAt same]
  exact Number.gives_signBit_add _ finite

/-- A zero is read as a positive one. -/
theorem read_zero (encodes : format.Encodes pattern 0) :
    Number.read format pattern = .zero false := by
  obtain ⟨ordinal, finite, rfl, same⟩ := encodes
  obtain rfl := (format.unitsAt_eq_zero_iff).mp same
  exact (Number.read_signBit_add _ finite).trans (if_pos rfl)

theorem realOf (encodes : format.Encodes pattern units) :
    format.realOf pattern = units * 2 ^ format.lowestPlace := by
  obtain ⟨ordinal, finite, rfl, same⟩ := encodes
  rw [realOf_signBit_add _ _ finite, signed_unitsAt same]

theorem isNegative (encodes : format.Encodes pattern units) :
    format.isNegative pattern = decide (units < 0) := by
  obtain ⟨ordinal, finite, rfl, -⟩ := encodes
  exact format.isNegative_signBit_add _ (finite.trans format.infinityOrdinal_lt)

theorem isFinite (encodes : format.Encodes pattern units) : format.isFinite pattern = true := by
  obtain ⟨ordinal, finite, rfl, -⟩ := encodes
  exact format.isFinite_signBit_add _ finite

theorem fits (encodes : format.Encodes pattern units) : pattern < 2 ^ format.totalBits := by
  obtain ⟨ordinal, finite, rfl, -⟩ := encodes
  exact format.signBit_add_lt _ (finite.trans format.infinityOrdinal_lt)

/-- A multiple has one pattern. -/
theorem unique (encodes : format.Encodes pattern units) (encodes' : format.Encodes other units) :
    pattern = other := by
  obtain ⟨ordinal, -, rfl, same⟩ := encodes
  obtain ⟨ordinal', -, rfl, same'⟩ := encodes'
  rw [format.unitsAt_strictMono.injective (same.trans same'.symm)]

/-! ## Comparisons -/

/-- The number of a pattern in the order of all values. -/
theorem toOrdinal (encodes : format.Encodes pattern units) :
    ∃ ordinal < format.infinityOrdinal, format.unitsAt ordinal = units.natAbs ∧
      format.toOrdinal pattern = if units < 0 then -(ordinal : ℤ) else ordinal := by
  obtain ⟨ordinal, finite, rfl, same⟩ := encodes
  have small := finite.trans format.infinityOrdinal_lt
  refine ⟨ordinal, finite, same, ?_⟩
  unfold Format.toOrdinal
  rw [format.isNegative_signBit_add _ small, format.magnitudeField_signBit_add _ small]
  by_cases negative : units < 0
  · rw [if_pos (decide_eq_true negative), if_pos negative]
  · rw [if_neg (by simpa using negative), if_neg negative, decide_eq_false negative]
    simp [signBit]

/-- Patterns are in the order of their multiples. -/
theorem toOrdinal_le_iff (encodes : format.Encodes pattern units)
    (encodes' : format.Encodes other units') :
    format.toOrdinal pattern ≤ format.toOrdinal other ↔ units ≤ units' := by
  obtain ⟨ordinal, -, same, number⟩ := encodes.toOrdinal
  obtain ⟨ordinal', -, same', number'⟩ := encodes'.toOrdinal
  have le : ordinal ≤ ordinal' ↔ units.natAbs ≤ units'.natAbs := by
    rw [← same, ← same', format.unitsAt_strictMono.le_iff_le]
  have ge : ordinal' ≤ ordinal ↔ units'.natAbs ≤ units.natAbs := by
    rw [← same, ← same', format.unitsAt_strictMono.le_iff_le]
  have zero : ordinal = 0 ↔ units.natAbs = 0 := by rw [← same, unitsAt_eq_zero_iff]
  have zero' : ordinal' = 0 ↔ units'.natAbs = 0 := by rw [← same', unitsAt_eq_zero_iff]
  rw [number, number']
  split <;> split <;> omega

theorem atLeast_iff (encodes : format.Encodes pattern units)
    (encodes' : format.Encodes other units') :
    Native.atLeast format pattern other = true ↔ units' ≤ units := by
  rw [Native.atLeast, decide_eq_true_eq, encodes'.toOrdinal_le_iff encodes]

theorem above_iff (encodes : format.Encodes pattern units)
    (encodes' : format.Encodes other units') :
    Native.above format pattern other = true ↔ units' < units := by
  rw [Native.above, decide_eq_true_eq, ← not_le, encodes.toOrdinal_le_iff encodes', not_le]

end Encodes

/-! ## Exact operations -/

/-- The multiple is a value of the format. -/
def Holds (format : Format) (units : ℤ) : Prop :=
  ∃ ordinal < format.infinityOrdinal, format.unitsAt ordinal = units.natAbs

theorem OnGrid.holds (grid : format.OnGrid units.natAbs)
    (small : units.natAbs < format.unitsAt format.infinityOrdinal) : format.Holds units := by
  obtain ⟨ordinal, same⟩ := grid
  rw [← same, format.unitsAt_strictMono.lt_iff_lt] at small
  exact ⟨ordinal, small, same⟩

theorem Encodes.holds (encodes : format.Encodes pattern units) : format.Holds units := by
  obtain ⟨ordinal, finite, -, same⟩ := encodes
  exact ⟨ordinal, finite, same⟩

theorem Encodes.onGrid (encodes : format.Encodes pattern units) : format.OnGrid units.natAbs := by
  obtain ⟨ordinal, -, same⟩ := encodes.holds
  exact ⟨ordinal, same⟩

theorem Encodes.natAbs_lt (encodes : format.Encodes pattern units) :
    units.natAbs < format.unitsAt format.infinityOrdinal := by
  obtain ⟨ordinal, finite, same⟩ := encodes.holds
  rw [← same]
  exact format.unitsAt_strictMono finite

theorem encodes_zero : format.Encodes (format.zero false) 0 :=
  ⟨0, format.infinityOrdinal_pos, rfl, format.unitsAt_zero⟩

/-- An exact outcome that is a value of the format with a sign becomes a pattern without an
exception. -/
theorem Holds.ofOutcome_signed {outcome : Outcome} {negative : Bool} (holds : format.Holds units)
    (value : outcome.HasValue (signed negative (units * 2 ^ format.lowestPlace))) :
    ∃ ordinal < format.infinityOrdinal, format.unitsAt ordinal = units.natAbs ∧
      Native.ofOutcome format outcome =
        ⟨format.signBit (negative != decide (units < 0)) + ordinal, .none⟩ := by
  obtain ⟨ordinal, finite, same⟩ := holds
  rw [signed_units same] at value
  have positive : 0 < ordinal := by
    rw [Nat.pos_iff_ne_zero]
    rintro rfl
    refine Dyadic.ne_zero_of_hasValue value ?_
    rw [magnitudeAt_zero, signed_zero]
  obtain ⟨bits, flags⟩ := Native.ofOutcome_of_hasValue positive value
  rw [min_eq_left finite.le] at bits
  refine ⟨ordinal, finite, same, ?_⟩
  rw [← bits, ← flags finite]

/-- An exact outcome that is a value of the format becomes its pattern without an exception. -/
theorem Holds.ofOutcome {outcome : Outcome} (holds : format.Holds units)
    (value : outcome.HasValue (units * 2 ^ format.lowestPlace)) :
    ∃ result, Native.ofOutcome format outcome = ⟨result, .none⟩ ∧ format.Encodes result units := by
  have unsigned : outcome.HasValue (signed false (units * 2 ^ format.lowestPlace)) := value
  obtain ⟨ordinal, finite, same, rounded⟩ := holds.ofOutcome_signed unsigned
  rw [Bool.false_bne] at rounded
  exact ⟨_, rounded, ordinal, finite, rfl, same⟩

/-- A sum that is a value of the format is exact. -/
theorem Encodes.add (encodes : format.Encodes pattern units)
    (encodes' : format.Encodes other units') (holds : format.Holds (units + units')) :
    ∃ result, Native.add format pattern other = ⟨result, .none⟩ ∧
      format.Encodes result (units + units') := by
  have unit : (2 : ℝ) ^ format.lowestPlace ≠ 0 := by positivity
  have sum : (units : ℝ) * 2 ^ format.lowestPlace + units' * 2 ^ format.lowestPlace =
      (units + units' : ℤ) * 2 ^ format.lowestPlace := by push_cast; ring
  unfold Native.add
  rcases encodes.gives.add encodes'.gives with ⟨-, value⟩ | ⟨zero, outcome⟩
  · rw [sum] at value
    exact holds.ofOutcome value
  · rw [sum, mul_eq_zero, or_iff_left unit, Int.cast_eq_zero] at zero
    rw [zero]
    rcases outcome with cancelled | ⟨negative, left, right, outcome⟩
    · rw [cancelled]
      exact ⟨_, rfl, encodes_zero⟩
    · -- Only a positive zero is the pattern of a multiple.
      have positive : negative = false := by
        rcases encodes.gives with ⟨none, -⟩ | ⟨value, finite, -⟩
        · rw [mul_eq_zero, or_iff_left unit, Int.cast_eq_zero] at none
          subst none
          rw [encodes.read_zero] at left
          exact (Number.zero.inj left).symm
        · rw [finite] at left
          exact absurd left (by simp)
      rw [outcome, positive]
      exact ⟨_, rfl, encodes_zero⟩

/-- A difference that is a value of the format is exact. -/
theorem Encodes.sub (encodes : format.Encodes pattern units)
    (encodes' : format.Encodes other units') (holds : format.Holds (units - units')) :
    ∃ result, Native.sub format pattern other = ⟨result, .none⟩ ∧
      format.Encodes result (units - units') := by
  have unit : (2 : ℝ) ^ format.lowestPlace ≠ 0 := by positivity
  have difference : (units : ℝ) * 2 ^ format.lowestPlace + -(units' * 2 ^ format.lowestPlace) =
      (units - units' : ℤ) * 2 ^ format.lowestPlace := by push_cast; ring
  unfold Native.sub Number.sub
  rcases encodes.gives.add encodes'.gives.neg with ⟨-, value⟩ | ⟨zero, outcome⟩
  · rw [difference] at value
    exact holds.ofOutcome value
  · rw [difference, mul_eq_zero, or_iff_left unit, Int.cast_eq_zero] at zero
    rw [zero]
    rcases outcome with cancelled | ⟨negative, left, right, -⟩
    · rw [cancelled]
      exact ⟨_, rfl, encodes_zero⟩
    · -- Equal zeros have different signs once the second one is negated.
      have same : units = 0 := by
        rcases encodes.gives with ⟨none, -⟩ | ⟨value, finite, -⟩
        · rwa [mul_eq_zero, or_iff_left unit, Int.cast_eq_zero] at none
        · rw [finite] at left
          exact absurd left (by simp)
      obtain rfl : units' = 0 := by omega
      subst same
      rw [encodes.read_zero] at left
      rw [encodes'.read_zero] at right
      obtain rfl := Number.zero.inj left
      exact absurd right (by simp [Number.neg])

/-! ## Products -/

/-- A product of positive numbers on the grid has the pattern of its number, or of an infinity. -/
theorem mul_clipped {y z : ℝ} {product : ℕ} (gives : (Number.read format pattern).Gives y)
    (gives' : (Number.read format other).Gives z) (left : 0 < y) (right : 0 < z)
    (same : y * z = product * 2 ^ format.lowestPlace) (grid : format.OnGrid product) :
    ∃ ordinal, format.unitsAt ordinal = product ∧
      (Native.mul format pattern other).pattern = min ordinal format.infinityOrdinal ∧
      (ordinal < format.infinityOrdinal →
        (Native.mul format pattern other).flags = .none) := by
  obtain ⟨ordinal, rfl⟩ := grid
  have value := gives.mul gives' left.ne' right.ne'
  rw [same, ← magnitudeAt_eq_unitsAt] at value
  have positive : 0 < ordinal := by
    rw [Nat.pos_iff_ne_zero]
    rintro rfl
    rw [unitsAt_zero, Nat.cast_zero, zero_mul] at same
    exact (mul_pos left right).ne' same
  obtain ⟨bits, flags⟩ := Native.ofOutcome_of_hasValue positive
    (show Outcome.HasValue _ (signed false (format.magnitudeAt ordinal)) from value)
  refine ⟨ordinal, rfl, ?_, flags⟩
  rw [Native.mul, bits, signBit, if_neg Bool.false_ne_true, Nat.zero_add]

/-- A value is compared with a product as if there were no infinities. -/
theorem Encodes.atLeast_clipped_iff (encodes : format.Encodes pattern units) (ordinal : ℕ) :
    Native.atLeast format pattern (min ordinal format.infinityOrdinal : ℕ) = true ↔
      (format.unitsAt ordinal : ℤ) ≤ units := by
  have small := (min_le_right ordinal _).trans_lt format.infinityOrdinal_lt
  have number : format.toOrdinal (min ordinal format.infinityOrdinal : ℕ) =
      (min ordinal format.infinityOrdinal : ℕ) := by
    have positive := format.isNegative_signBit_add false small
    rw [signBit, if_neg Bool.false_ne_true, Nat.zero_add] at positive
    rw [Format.toOrdinal, positive, if_neg Bool.false_ne_true]
  obtain ⟨ordinal', finite, same, number'⟩ := encodes.toOrdinal
  have le : ordinal ≤ ordinal' ↔ format.unitsAt ordinal ≤ units.natAbs := by
    rw [← same, format.unitsAt_strictMono.le_iff_le]
  have zero := @unitsAt_eq_zero_iff format ordinal
  have zero' : ordinal' = 0 ↔ units.natAbs = 0 := by rw [← same, unitsAt_eq_zero_iff]
  rw [Native.atLeast, decide_eq_true_eq, number, number']
  split <;> omega

end Format

end LibmAudit
