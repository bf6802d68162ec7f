/-
**Values of patterns.**

* `Format.magnitudeOf`, `realOf`, `valueOf`: the magnitude of a finite pattern by its fields, its
  value, and the value of a pattern that may be infinite.
* `Format.values`: the values of a format.
* `Format.magnitudeOf_eq`: the magnitude of a pattern is the one with its number.
* `Format.mem_values_iff`: the values are the numbered magnitudes with both signs.
-/

import LibmAudit.Proofs.Pattern

namespace LibmAudit

attribute [local instance (high)] instPowNat

/-- A magnitude with a sign. -/
def signed {α : Type} [Neg α] (negative : Bool) (magnitude : α) : α :=
  if negative then -magnitude else magnitude

/-! ## Signs -/

theorem signed_abs (y : ℝ) : signed (decide (y < 0)) |y| = y := by
  by_cases negative : y < 0
  · rw [decide_eq_true negative, abs_of_neg negative]
    exact neg_neg y
  · rw [decide_eq_false negative, abs_of_nonneg (not_lt.mp negative)]
    rfl

/-- A positive magnitude and its sign are determined by the number. -/
theorem signed_eq_signed {first second : Bool} {a b : ℝ} (nonneg : 0 ≤ a) (positive : 0 < b)
    (same : signed first a = signed second b) : first = second ∧ a = b := by
  cases first <;> cases second <;>
    simp only [signed, if_true, Bool.false_eq_true, if_false] at same
  · exact ⟨rfl, same⟩
  · linarith
  · linarith
  · exact ⟨rfl, neg_injective same⟩

theorem signed_inj {α : Type} [InvolutiveNeg α] {negative : Bool} {first second : α} :
    signed negative first = signed negative second ↔ first = second := by
  cases negative
  · exact Iff.rfl
  · exact neg_inj

@[simp]
theorem signed_zero {α : Type} [NegZeroClass α] (negative : Bool) :
    signed negative (0 : α) = 0 := by
  cases negative
  · rfl
  · exact neg_zero

theorem signed_add (negative : Bool) (a b : ℝ) :
    signed negative a + signed negative b = signed negative (a + b) := by
  cases negative
  · rfl
  · exact (neg_add a b).symm

theorem signed_sub (negative : Bool) (a b : ℝ) :
    signed negative a - signed negative b = signed negative (a - b) := by
  cases negative
  · rfl
  · exact (neg_sub' a b).symm

/-- Signs do not bring numbers closer. -/
theorem abs_sub_le_signed (first second : Bool) {a b : ℝ} (nonneg : 0 ≤ a) (positive : 0 < b) :
    |a - b| ≤ |signed first a - signed second b| ∧
      (|a - b| = |signed first a - signed second b| → signed first a = signed second a) := by
  have same : |-a - -b| = |a - b| := by rw [← abs_neg]; congr 1; ring
  have apart : |-a - b| = a + b := by rw [← abs_neg, abs_of_pos (by linarith)]; ring
  have apart' : |a - -b| = a + b := by rw [abs_of_pos (by linarith)]; ring
  have far : |a - b| ≤ a + b := abs_le.mpr ⟨by linarith, by linarith⟩
  have zero : |a - b| = a + b → a = 0 := by
    intro equal
    rcases abs_cases (a - b) with ⟨value, -⟩ | ⟨value, -⟩ <;> linarith
  cases first <;> cases second
  · exact ⟨le_rfl, fun _ => rfl⟩
  · simp only [signed, if_true, Bool.false_eq_true, if_false, apart']
    exact ⟨far, fun equal => by simp [zero equal]⟩
  · simp only [signed, if_true, Bool.false_eq_true, if_false, apart]
    exact ⟨far, fun equal => by simp [zero equal]⟩
  · exact ⟨same.ge, fun _ => rfl⟩

theorem abs_signed (negative : Bool) (a : ℝ) : |signed negative a| = |a| := by
  cases negative
  · rfl
  · exact abs_neg a

theorem natAbs_signed (negative : Bool) (magnitude : ℕ) :
    (signed negative (magnitude : ℤ)).natAbs = magnitude := by
  cases negative
  · exact Int.natAbs_natCast magnitude
  · exact (Int.natAbs_neg _).trans (Int.natAbs_natCast magnitude)

theorem abs_signed_sub (negative : Bool) (a b : ℝ) :
    |signed negative a - signed negative b| = |a - b| := by
  rw [signed_sub, abs_signed]

namespace Format

/-- The magnitude of a finite pattern. -/
noncomputable def magnitudeOf (format : Format) (pattern : ℤ) : ℝ :=
  if format.exponentField pattern = 0 then
    format.fractionField pattern * 2 ^ (format.emin - format.fractionBits)
  else
    (2 ^ format.fractionBits + format.fractionField pattern) *
      2 ^ (format.exponentField pattern - format.bias - format.fractionBits)

/-- The value of a finite pattern. -/
noncomputable def realOf (format : Format) (pattern : ℤ) : ℝ :=
  signed (format.isNegative pattern) (format.magnitudeOf pattern)

/-- The value of a pattern that is no NaN. -/
noncomputable def valueOf (format : Format) (pattern : ℤ) : EReal :=
  if format.isInfinite pattern then signed (format.isNegative pattern) ⊤ else format.realOf pattern

/-- The values of a format. -/
def values (format : Format) : Set EReal :=
  {value | ∃ pattern : ℕ, pattern < 2 ^ format.totalBits ∧ format.isNaN pattern = false ∧
    format.valueOf pattern = value}

/-- The magnitude with a number up to that of the infinities. -/
noncomputable def extendedAt (format : Format) (ordinal : ℕ) : EReal :=
  if ordinal < format.infinityOrdinal then format.magnitudeAt ordinal else ⊤

variable (format : Format)

/-! ## Magnitudes -/

theorem magnitudeOf_eq (pattern : ℤ) :
    format.magnitudeOf pattern = format.magnitudeAt (format.magnitudeField pattern) := by
  unfold magnitudeOf magnitudeAt significandAt placeAt placeIndexAt
  rw [← exponentField_eq, ← fractionField_eq]
  by_cases subnormal : format.exponentField pattern = 0
  · simp [subnormal, lowestPlace]
  · have place : (format.exponentField pattern : ℤ) - format.bias - format.fractionBits =
        format.lowestPlace + ((format.exponentField pattern - 1 : ℕ) : ℤ) := by
      unfold bias lowestPlace emin
      omega
    rw [if_neg subnormal, if_neg subnormal, place]
    push_cast
    rfl

theorem extendedAt_of_lt {ordinal : ℕ} (finite : ordinal < format.infinityOrdinal) :
    format.extendedAt ordinal = format.magnitudeAt ordinal := if_pos finite

theorem extendedAt_infinityOrdinal : format.extendedAt format.infinityOrdinal = ⊤ :=
  if_neg (lt_irrefl _)

theorem extendedAt_nonneg (ordinal : ℕ) : 0 ≤ format.extendedAt ordinal := by
  unfold extendedAt
  split
  · exact_mod_cast format.magnitudeAt_nonneg ordinal
  · exact le_top

theorem extendedAt_mono {ordinal other : ℕ} (le : ordinal ≤ other) :
    format.extendedAt ordinal ≤ format.extendedAt other := by
  by_cases finite : other < format.infinityOrdinal
  · rw [extendedAt_of_lt _ finite, extendedAt_of_lt _ (le.trans_lt finite)]
    exact_mod_cast format.magnitudeAt_strictMono.monotone le
  · rw [extendedAt, extendedAt, if_neg finite]
    exact le_top

theorem coe_le_extendedAt_iff {x : ℝ} {ordinal : ℕ} :
    (x : EReal) ≤ format.extendedAt ordinal ↔
      format.infinityOrdinal ≤ ordinal ∨ x ≤ format.magnitudeAt ordinal := by
  unfold extendedAt
  split
  · next finite =>
    rw [EReal.coe_le_coe_iff]
    exact ⟨Or.inr, fun either => either.resolve_left (not_le.mpr finite)⟩
  · next infinite => simp [not_lt.mp infinite]

theorem extendedAt_le_coe_iff {x : ℝ} {ordinal : ℕ} :
    format.extendedAt ordinal ≤ (x : EReal) ↔
      ordinal < format.infinityOrdinal ∧ format.magnitudeAt ordinal ≤ x := by
  unfold extendedAt
  split
  · next finite => simp [finite]
  · next infinite => simp [infinite]

/-! ## Values -/

/-- The value of a sign and a number. -/
theorem valueOf_signBit_add (negative : Bool) {ordinal : ℕ}
    (number : ordinal ≤ format.infinityOrdinal) :
    format.valueOf (format.signBit negative + ordinal : ℕ) =
      signed negative (format.extendedAt ordinal) := by
  have small := number.trans_lt format.infinityOrdinal_lt
  unfold valueOf realOf
  rw [isNegative_signBit_add _ _ small, magnitudeOf_eq, magnitudeField_signBit_add _ _ small]
  by_cases infinite : ordinal = format.infinityOrdinal
  · rw [if_pos ((format.isInfinite_iff _).mpr (by rwa [magnitudeField_signBit_add _ _ small])),
      infinite, extendedAt_infinityOrdinal]
  · rw [if_neg (by rwa [isInfinite_iff, magnitudeField_signBit_add _ _ small]),
      extendedAt_of_lt _ (lt_of_le_of_ne number infinite)]
    cases negative <;> rfl

theorem mem_values_iff (value : EReal) :
    value ∈ format.values ↔ ∃ (negative : Bool) (ordinal : ℕ), ordinal ≤ format.infinityOrdinal ∧
      value = signed negative (format.extendedAt ordinal) := by
  constructor
  · rintro ⟨pattern, fits, number, rfl⟩
    rw [isNaN_eq_false_iff] at number
    refine ⟨format.isNegative pattern, format.magnitudeField pattern, number, ?_⟩
    rw [← valueOf_signBit_add _ _ number, signBit_add_magnitudeField _ fits]
  · rintro ⟨negative, ordinal, number, rfl⟩
    have small := number.trans_lt format.infinityOrdinal_lt
    refine ⟨format.signBit negative + ordinal, format.signBit_add_lt negative small, ?_,
      format.valueOf_signBit_add negative number⟩
    rwa [isNaN_eq_false_iff, magnitudeField_signBit_add _ _ small]

theorem neg_mem_values {value : EReal} (member : value ∈ format.values) :
    -value ∈ format.values := by
  rw [mem_values_iff] at member ⊢
  obtain ⟨negative, ordinal, number, rfl⟩ := member
  refine ⟨!negative, ordinal, number, ?_⟩
  cases negative <;> simp [signed]

theorem realOf_signBit_add (negative : Bool) {ordinal : ℕ}
    (number : ordinal < format.infinityOrdinal) :
    format.realOf (format.signBit negative + ordinal : ℕ) =
      signed negative (format.magnitudeAt ordinal) := by
  have small := number.trans format.infinityOrdinal_lt
  unfold realOf
  rw [isNegative_signBit_add _ _ small, magnitudeOf_eq, magnitudeField_signBit_add _ _ small]

theorem isFinite_signBit_add (negative : Bool) {ordinal : ℕ}
    (number : ordinal < format.infinityOrdinal) :
    format.isFinite (format.signBit negative + ordinal : ℕ) = true := by
  rwa [isFinite_iff, magnitudeField_signBit_add _ _ (number.trans format.infinityOrdinal_lt)]

theorem isInfinite_signBit_add (negative : Bool) {ordinal : ℕ}
    (number : ordinal < format.infinityOrdinal) :
    format.isInfinite (format.signBit negative + ordinal : ℕ) = false := by
  rw [Bool.eq_false_iff, Ne, isInfinite_iff,
    magnitudeField_signBit_add _ _ (number.trans format.infinityOrdinal_lt)]
  exact number.ne

theorem isNaN_signBit_add (negative : Bool) {ordinal : ℕ}
    (number : ordinal < format.infinityOrdinal) :
    format.isNaN (format.signBit negative + ordinal : ℕ) = false := by
  rw [isNaN_eq_false_iff, magnitudeField_signBit_add _ _ (number.trans format.infinityOrdinal_lt)]
  exact number.le

end Format

end LibmAudit
