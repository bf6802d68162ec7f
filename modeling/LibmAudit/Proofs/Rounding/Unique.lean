/-
**There is one correct rounding.**

* `Format.RoundsToNearest.tie`: of two nearest magnitudes each would win the tie against the other.
* `Format.IsRounding.unique`: pattern and exceptions of a correctly rounded number are determined by
  the mode and the number.
-/

import LibmAudit.Proofs.Rounding.Correct

namespace LibmAudit.Format

attribute [local instance (high)] instPowNat

variable {format : Format} {x : ℝ}

/-! ## Numbers from values -/

theorem extendedAt_injOn {first second : ℕ} (left : first ≤ format.infinityOrdinal)
    (right : second ≤ format.infinityOrdinal)
    (equal : format.extendedAt first = format.extendedAt second) : first = second := by
  unfold extendedAt at equal
  split at equal <;> split at equal
  · exact format.magnitudeAt_strictMono.injective (EReal.coe_eq_coe_iff.mp equal)
  · exact absurd equal (EReal.coe_ne_top _)
  · exact absurd equal.symm (EReal.coe_ne_top _)
  · omega

/-- The pattern of a rounded number is the sign bit and a number. -/
theorem IsRounding.exists_ordinal {mode : Mode} {negative : Bool} {result : Rounded}
    (rounding : format.IsRounding mode negative x result) :
    ∃ ordinal ≤ format.infinityOrdinal,
      result.pattern = format.signBit negative + ordinal := by
  have split := format.signBit_add_magnitudeField rounding.fits
  rw [rounding.sign] at split
  exact ⟨_, (format.isNaN_eq_false_iff _).mp rounding.isNumber, split.symm⟩

/-! ## Directed modes -/

theorem ordinal_eq_of_valueOf_eq {negative : Bool} {first second : ℕ}
    (left : first ≤ format.infinityOrdinal) (right : second ≤ format.infinityOrdinal)
    (equal : format.valueOf (format.signBit negative + first : ℕ) =
      format.valueOf (format.signBit negative + second : ℕ)) : first = second := by
  rw [valueOf_signBit_add _ _ left, valueOf_signBit_add _ _ right, signed_inj] at equal
  exact extendedAt_injOn left right equal

/-- Two patterns rounded in the same direction have the same value. -/
theorem RoundsTo.valueOf_eq {mode : Mode} {negative : Bool} {first second : ℕ}
    (directed : mode ≠ .nearestEven ∧ mode ≠ .nearestAway)
    (left : format.RoundsTo mode negative x first)
    (right : format.RoundsTo mode negative x second) :
    format.valueOf first = format.valueOf second := by
  cases mode with
  | nearestEven => exact absurd rfl directed.1
  | nearestAway => exact absurd rfl directed.2
  | up => exact IsLeast.unique left right
  | down => exact IsGreatest.unique left right
  | towardZero =>
    cases negative
    · exact IsGreatest.unique left right
    · exact IsLeast.unique left right
  | awayFromZero =>
    cases negative
    · exact IsLeast.unique left right
    · exact IsGreatest.unique left right

/-! ## Nearest modes -/

/-- A nearest value by number: infinity from the threshold on, and below it no finite magnitude is
closer. -/
theorem RoundsToNearest.cases {wins : ℝ → Prop} {negative : Bool} {ordinal : ℕ}
    (number : ordinal ≤ format.infinityOrdinal)
    (nearest : format.RoundsToNearest wins (signed negative x)
      (format.signBit negative + ordinal)) :
    (format.overflowThreshold ≤ |x| ∧ ordinal = format.infinityOrdinal) ∨
      (|x| < format.overflowThreshold ∧ ordinal < format.infinityOrdinal ∧
        ∀ other < format.infinityOrdinal,
          |format.magnitudeAt ordinal - x| ≤ |format.magnitudeAt other - x| ∧
            (|format.magnitudeAt ordinal - x| = |format.magnitudeAt other - x| →
              ordinal ≠ other → wins (signed negative (format.magnitudeAt other)))) := by
  have small := number.trans_lt format.infinityOrdinal_lt
  unfold RoundsToNearest at nearest
  rw [abs_signed, isInfinite_iff, isFinite_iff, magnitudeField_signBit_add _ _ small] at nearest
  by_cases overflow : format.overflowThreshold ≤ |x|
  · rw [if_pos overflow] at nearest
    exact Or.inl ⟨overflow, nearest⟩
  · rw [if_neg overflow] at nearest
    obtain ⟨finite, nearest⟩ := nearest
    refine Or.inr ⟨not_le.mp overflow, finite, fun other bound => ?_⟩
    have given := nearest (format.signBit negative + other)
      (format.signBit_add_lt negative (bound.trans format.infinityOrdinal_lt))
      (format.isFinite_signBit_add negative bound)
    rw [realOf_signBit_add _ _ finite, realOf_signBit_add _ _ bound, abs_signed_sub,
      abs_signed_sub, Ne, signed_inj, format.magnitudeAt_strictMono.injective.eq_iff] at given
    exact given

/-- Of two nearest magnitudes that are different each wins the tie against the other. -/
theorem RoundsToNearest.tie {wins wins' : ℝ → Prop} {negative : Bool} {first second : ℕ}
    (left : first ≤ format.infinityOrdinal) (right : second ≤ format.infinityOrdinal)
    (nearest : format.RoundsToNearest wins (signed negative x) (format.signBit negative + first))
    (nearest' : format.RoundsToNearest wins' (signed negative x)
      (format.signBit negative + second)) (distinct : first ≠ second) :
    first < format.infinityOrdinal ∧ second < format.infinityOrdinal ∧
      |format.magnitudeAt first - x| = |format.magnitudeAt second - x| ∧
      (∀ other < format.infinityOrdinal,
        |format.magnitudeAt first - x| ≤ |format.magnitudeAt other - x|) ∧
      wins (signed negative (format.magnitudeAt second)) ∧
      wins' (signed negative (format.magnitudeAt first)) := by
  rcases nearest.cases left with ⟨overflow, infinite⟩ | ⟨below, finite, among⟩ <;>
    rcases nearest'.cases right with ⟨overflow', infinite'⟩ | ⟨below', finite', among'⟩
  · exact absurd (infinite.trans infinite'.symm) distinct
  · exact absurd overflow (not_le.mpr below')
  · exact absurd overflow' (not_le.mpr below)
  · have tie := le_antisymm (among second finite').1 (among' first finite).1
    exact ⟨finite, finite', tie, fun other number => (among other number).1,
      (among second finite').2 tie distinct, (among' first finite).2 tie.symm distinct.symm⟩

variable (format) in
/-- Between two magnitudes that are as far away there is no other one unless it is closer. -/
theorem not_between {first other second : ℕ} (left : first < other) (right : other < second)
    (tie : |format.magnitudeAt first - x| = |format.magnitudeAt second - x|) :
    |format.magnitudeAt other - x| < |format.magnitudeAt first - x| := by
  have lower := format.magnitudeAt_strictMono left
  have upper := format.magnitudeAt_strictMono right
  have far := neg_abs_le (format.magnitudeAt first - x)
  have near := le_abs_self (format.magnitudeAt second - x)
  rw [← tie] at near
  exact abs_lt.mpr ⟨by linarith, by linarith⟩

theorem nearestEven_ordinal_eq {negative : Bool} {first second : ℕ}
    (left : first ≤ format.infinityOrdinal) (right : second ≤ format.infinityOrdinal)
    (nearest : format.RoundsTo .nearestEven negative x (format.signBit negative + first))
    (nearest' : format.RoundsTo .nearestEven negative x (format.signBit negative + second)) :
    first = second := by
  by_contra distinct
  unfold RoundsTo at nearest nearest'
  dsimp only at nearest nearest'
  obtain ⟨finite, finite', tie, among, even, even'⟩ :=
    RoundsToNearest.tie left right nearest nearest' distinct
  rw [even_signBit_add_iff] at even even'
  -- Two even numbers have an odd one between them.
  have parity : first + 1 ≠ second ∧ second + 1 ≠ first := by
    constructor <;> rintro rfl
    · exact Nat.even_add_one.mp even' even
    · exact Nat.even_add_one.mp even even'
  rcases Nat.lt_or_gt_of_ne distinct with less | more
  · have closer := format.not_between (Nat.lt_succ_self first) (by omega) tie
    exact absurd (among (first + 1) (by omega)) (not_le.mpr closer)
  · have closer := format.not_between (Nat.lt_succ_self second) (by omega) tie.symm
    exact absurd (among (second + 1) (by omega)) (not_le.mpr (tie ▸ closer))

theorem nearestAway_ordinal_eq {negative : Bool} {first second : ℕ}
    (left : first ≤ format.infinityOrdinal) (right : second ≤ format.infinityOrdinal)
    (nearest : format.RoundsTo .nearestAway negative x (format.signBit negative + first))
    (nearest' : format.RoundsTo .nearestAway negative x (format.signBit negative + second)) :
    first = second := by
  by_contra distinct
  unfold RoundsTo at nearest nearest'
  dsimp only at nearest nearest'
  obtain ⟨finite, finite', -, -, above, above'⟩ :=
    RoundsToNearest.tie left right nearest nearest' distinct
  rw [realOf_signBit_add _ _ finite, abs_signed, abs_signed,
    abs_of_nonneg (format.magnitudeAt_nonneg _), abs_of_nonneg (format.magnitudeAt_nonneg _),
    format.magnitudeAt_strictMono.le_iff_le] at above
  rw [realOf_signBit_add _ _ finite', abs_signed, abs_signed,
    abs_of_nonneg (format.magnitudeAt_nonneg _), abs_of_nonneg (format.magnitudeAt_nonneg _),
    format.magnitudeAt_strictMono.le_iff_le] at above'
  exact distinct (le_antisymm above' above)

/-! ## All modes -/

/-- A rounded number has one pattern. -/
theorem IsRounding.pattern_eq {mode : Mode} {negative : Bool} {first second : Rounded}
    (left : format.IsRounding mode negative x first)
    (right : format.IsRounding mode negative x second) : first.pattern = second.pattern := by
  obtain ⟨ordinal, number, pattern⟩ := left.exists_ordinal
  obtain ⟨ordinal', number', pattern'⟩ := right.exists_ordinal
  have value := left.value
  have value' := right.value
  rw [pattern] at value ⊢
  rw [pattern'] at value' ⊢
  congr 1
  by_cases directed : mode ≠ .nearestEven ∧ mode ≠ .nearestAway
  · exact ordinal_eq_of_valueOf_eq number number' (value.valueOf_eq directed value')
  · rw [not_and_or, not_not, not_not] at directed
    rcases directed with rfl | rfl
    · exact nearestEven_ordinal_eq number number' value value'
    · exact nearestAway_ordinal_eq number number' value value'

/-- A rounded number has one pattern and one set of exceptions. -/
theorem IsRounding.unique {mode : Mode} {negative : Bool} {first second : Rounded}
    (left : format.IsRounding mode negative x first)
    (right : format.IsRounding mode negative x second) : first = second := by
  have pattern := left.pattern_eq right
  have inexact := left.inexact.trans (pattern ▸ right.inexact.symm)
  have underflow := left.underflow.trans ((and_congr_left' inexact).trans right.underflow.symm)
  have overflow := left.overflow.trans right.overflow.symm
  obtain ⟨invalid, divideByZero, unnamed⟩ := left.noOther
  obtain ⟨invalid', divideByZero', unnamed'⟩ := right.noOther
  rw [← Bool.eq_iff_iff] at inexact underflow overflow
  rcases first with ⟨_, ⟨_, _, _, _, _, _⟩⟩
  rcases second with ⟨_, ⟨_, _, _, _, _, _⟩⟩
  simp_all

end LibmAudit.Format
