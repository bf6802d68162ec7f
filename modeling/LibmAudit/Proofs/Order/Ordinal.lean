/-
**Ordinals order the values.**

The ordinal of a pattern is the number of its magnitude, with its sign. Larger ordinals stand for
larger values: the infinities have the extreme ones, and both zeros have ordinal 0.

* `Format.toOrdinal_eq`, `ofOrdinal_eq`: ordinals and patterns by their sign and number.
* `Format.valueAt`: the value with an ordinal. `Format.valueOf_eq_valueAt`: patterns have the value
  with their ordinal.
* `Format.valueAt_strictMonoOn`: larger ordinals stand for larger values.
* `Format.scaledValue`: the value of a pattern by its significand and exponent.
* `Format.IsNext`: the pattern one number farther from zero. `Format.abs_realOf_succ_sub`: it is one
  unit in the last place away.
* `Format.toOrdinal_orderIso`: patterns that are no NaNs have the order of their ordinals, every
  ordinal leads back to its pattern, and neighbours are one unit in the last place apart.
-/

import LibmAudit.Proofs.Rounding.Unique

namespace LibmAudit.Format

attribute [local instance (high)] instPowNat

/-- The value with an ordinal. -/
noncomputable def valueAt (format : Format) (ordinal : ℤ) : EReal :=
  signed (decide (ordinal < 0)) (format.extendedAt ordinal.natAbs)

/-- The value of a pattern by its signed significand and its exponent; what has none is an
infinity. -/
noncomputable def scaledValue (format : Format) (pattern : ℤ) : EReal :=
  match format.scaled? pattern with
  | some (significand, exponent) => ((significand * 2 ^ exponent : ℝ) : EReal)
  | none => signed (format.isNegative pattern) ⊤

/-- A pattern of the same sign whose ordinal is one farther from zero. -/
def IsNext (format : Format) (pattern next : ℕ) : Prop :=
  next < 2 ^ format.totalBits ∧ format.isNegative next = format.isNegative pattern ∧
    (format.toOrdinal next).natAbs = (format.toOrdinal pattern).natAbs + 1

variable (format : Format) {pattern : ℕ}

/-! ## Ordinals by sign and number -/

theorem toOrdinal_eq (fits : pattern < 2 ^ format.totalBits) :
    format.toOrdinal pattern =
      signed (format.isNegative pattern) (format.magnitudeField pattern : ℤ) := by
  unfold toOrdinal signed
  split
  · rfl
  · next positive =>
    have whole := format.signBit_add_magnitudeField fits
    rw [Bool.eq_false_iff.mpr positive, signBit, if_neg Bool.false_ne_true, Nat.zero_add] at whole
    exact congrArg Nat.cast whole.symm

theorem signed_natAbs (ordinal : ℤ) :
    signed (decide (ordinal < 0)) (ordinal.natAbs : ℤ) = ordinal := by
  by_cases negative : ordinal < 0
  · rw [decide_eq_true negative]
    change -(ordinal.natAbs : ℤ) = ordinal
    omega
  · rw [decide_eq_false negative]
    change (ordinal.natAbs : ℤ) = ordinal
    omega

theorem natAbs_toOrdinal (fits : pattern < 2 ^ format.totalBits) :
    (format.toOrdinal pattern).natAbs = format.magnitudeField pattern := by
  rw [format.toOrdinal_eq fits, natAbs_signed]

theorem toOrdinal_signBit_add (negative : Bool) {ordinal : ℕ}
    (small : ordinal < 2 ^ (format.totalBits - 1)) :
    format.toOrdinal (format.signBit negative + ordinal : ℕ) = signed negative (ordinal : ℤ) := by
  rw [format.toOrdinal_eq (format.signBit_add_lt negative small),
    format.isNegative_signBit_add negative small, format.magnitudeField_signBit_add negative small]

/-- The sign bit of a negative ordinal does not meet the bits of its number. -/
theorem ofOrdinal_eq {ordinal : ℤ} (small : ordinal.natAbs < 2 ^ (format.totalBits - 1)) :
    format.ofOrdinal ordinal = format.signBit (decide (ordinal < 0)) + ordinal.natAbs := by
  unfold ofOrdinal signBit
  by_cases negative : ordinal < 0
  · have apart := Nat.two_pow_add_eq_or_of_lt small 1
    rw [mul_one] at apart
    rw [if_pos negative, if_pos (decide_eq_true negative), apart]
  · rw [if_neg negative, decide_eq_false negative, if_neg Bool.false_ne_true, Nat.zero_add]

theorem ofOrdinal_lt {ordinal : ℤ} (small : ordinal.natAbs < 2 ^ (format.totalBits - 1)) :
    format.ofOrdinal ordinal < 2 ^ format.totalBits := by
  rw [format.ofOrdinal_eq small]
  exact format.signBit_add_lt _ small

theorem toOrdinal_ofOrdinal {ordinal : ℤ} (small : ordinal.natAbs < 2 ^ (format.totalBits - 1)) :
    format.toOrdinal (format.ofOrdinal ordinal) = ordinal := by
  rw [format.ofOrdinal_eq small, format.toOrdinal_signBit_add _ small, signed_natAbs]

/-- A pattern is determined by its sign and its number. -/
theorem eq_of_magnitudeField_eq {first second : ℕ} (fits : first < 2 ^ format.totalBits)
    (fits' : second < 2 ^ format.totalBits)
    (sign : format.isNegative first = format.isNegative second)
    (number : format.magnitudeField first = format.magnitudeField second) : first = second := by
  rw [← format.signBit_add_magnitudeField fits, ← format.signBit_add_magnitudeField fits', sign,
    number]

theorem toOrdinal_eq_zero_iff (fits : pattern < 2 ^ format.totalBits) :
    format.toOrdinal pattern = 0 ↔ format.isZero pattern = true := by
  rw [← Int.natAbs_eq_zero, format.natAbs_toOrdinal fits, isZero_iff]

theorem toOrdinal_lt_zero_iff (fits : pattern < 2 ^ format.totalBits)
    (nonzero : format.isZero pattern = false) :
    format.toOrdinal pattern < 0 ↔ format.isNegative pattern = true := by
  have number : format.magnitudeField pattern ≠ 0 := by
    rwa [Bool.eq_false_iff, Ne, isZero_iff] at nonzero
  rw [format.toOrdinal_eq fits]
  cases format.isNegative pattern
  · exact iff_of_false (by simp [signed]) Bool.false_ne_true
  · exact iff_of_true (by simp [signed]; omega) rfl

/-- A zero loses its sign on the way back. -/
theorem ofOrdinal_toOrdinal (fits : pattern < 2 ^ format.totalBits) :
    format.ofOrdinal (format.toOrdinal pattern) =
      if format.magnitudeField pattern = 0 then 0 else pattern := by
  have small := format.magnitudeField_lt pattern
  rw [format.ofOrdinal_eq (by rwa [format.natAbs_toOrdinal fits]), format.natAbs_toOrdinal fits]
  by_cases zero : format.magnitudeField pattern = 0
  · have none := (format.toOrdinal_eq_zero_iff fits).mpr ((format.isZero_iff _).mpr zero)
    rw [if_pos zero, zero, none]
    rfl
  · have nonzero : format.isZero pattern = false := by
      rwa [Bool.eq_false_iff, Ne, isZero_iff]
    have sign : decide (format.toOrdinal pattern < 0) = format.isNegative pattern := by
      rw [Bool.eq_iff_iff, decide_eq_true_eq, format.toOrdinal_lt_zero_iff fits nonzero]
    rw [if_neg zero, sign, format.signBit_add_magnitudeField fits]

/-- Patterns with one ordinal are equal, or they are zeros. -/
theorem eq_of_toOrdinal_eq {first second : ℕ} (fits : first < 2 ^ format.totalBits)
    (fits' : second < 2 ^ format.totalBits) (nonzero : format.magnitudeField first ≠ 0)
    (same : format.toOrdinal first = format.toOrdinal second) : first = second := by
  have back := format.ofOrdinal_toOrdinal fits
  have back' := format.ofOrdinal_toOrdinal fits'
  rw [if_neg nonzero] at back
  rw [← same, ← format.natAbs_toOrdinal fits', ← same, format.natAbs_toOrdinal fits,
    if_neg nonzero] at back'
  exact back.symm.trans back'

/-! ## Values in their order -/

theorem extendedAt_zero : format.extendedAt 0 = 0 := by
  rw [extendedAt_of_lt _ format.infinityOrdinal_pos, magnitudeAt_zero, EReal.coe_zero]

theorem extendedAt_strictMonoOn :
    StrictMonoOn format.extendedAt (Set.Iic format.infinityOrdinal) := by
  intro first left second right less
  refine lt_of_le_of_ne (format.extendedAt_mono less.le) fun same => ?_
  exact less.ne (extendedAt_injOn left right same)

/-- Larger ordinals stand for larger values, up to the infinities. -/
theorem valueAt_strictMonoOn :
    StrictMonoOn format.valueAt {ordinal | ordinal.natAbs ≤ format.infinityOrdinal} := by
  intro first left second right less
  have mono := format.extendedAt_strictMonoOn
  unfold valueAt
  by_cases negative : first < 0
  · rw [decide_eq_true negative]
    by_cases negative' : second < 0
    · rw [decide_eq_true negative']
      exact EReal.neg_lt_neg_iff.mpr (mono right left (by omega))
    · rw [decide_eq_false negative']
      have positive : 0 < format.extendedAt first.natAbs := by
        rw [← format.extendedAt_zero]
        exact mono (Nat.zero_le _) left (by omega)
      have below : -format.extendedAt first.natAbs < 0 :=
        EReal.neg_lt_comm.mp (by simpa using positive)
      exact below.trans_le (format.extendedAt_nonneg _)
  · rw [decide_eq_false negative, decide_eq_false (by omega)]
    exact mono left right (by omega)

theorem valueAt_signed (negative : Bool) (ordinal : ℕ) :
    format.valueAt (signed negative (ordinal : ℤ)) =
      signed negative (format.extendedAt ordinal) := by
  unfold valueAt
  rw [natAbs_signed]
  rcases Nat.eq_zero_or_pos ordinal with rfl | positive
  · rw [format.extendedAt_zero, signed_zero]
    simp
  · cases negative
    · rw [decide_eq_false (by simp [signed])]
    · rw [decide_eq_true (by simp [signed]; omega)]

/-- A pattern has the value with its ordinal. -/
theorem valueOf_eq_valueAt (fits : pattern < 2 ^ format.totalBits)
    (number : format.isNaN pattern = false) :
    format.valueOf pattern = format.valueAt (format.toOrdinal pattern) := by
  have value := format.valueOf_signBit_add (format.isNegative pattern)
    ((format.isNaN_eq_false_iff pattern).mp number)
  rwa [format.signBit_add_magnitudeField fits, ← valueAt_signed, ← format.toOrdinal_eq fits]
    at value

theorem natAbs_toOrdinal_le (fits : pattern < 2 ^ format.totalBits)
    (number : format.isNaN pattern = false) :
    (format.toOrdinal pattern).natAbs ≤ format.infinityOrdinal := by
  rwa [format.natAbs_toOrdinal fits, ← format.isNaN_eq_false_iff]

/-! ## Significands and exponents -/

/-- A pattern that is no NaN has the value of its significand and exponent. -/
theorem scaledValue_eq {pattern : ℤ} (number : format.isNaN pattern = false) :
    format.scaledValue pattern = format.valueOf pattern := by
  have mask := format.exponentMask_eq
  have range := format.one_le_emax
  have bound := format.exponentField_lt pattern
  rw [← exponentMask_add_one] at bound
  have signed_coe (magnitude : ℝ) (significand : ℕ) (exponent : ℤ)
      (same : magnitude = significand * 2 ^ exponent) :
      (((if format.isNegative pattern then -(significand : ℤ) else significand : ℤ) : ℝ) *
        2 ^ exponent) = signed (format.isNegative pattern) magnitude := by
    rw [same]
    cases format.isNegative pattern <;> simp [signed]
  unfold scaledValue scaled? valueOf isInfinite realOf magnitudeOf
  dsimp only
  by_cases lowest : format.exponentField pattern = 0
  · have finite : (format.exponentField pattern == format.exponentMask) = false := by
      rw [beq_eq_false_iff_ne]
      omega
    rw [if_pos lowest, if_pos lowest, finite, Bool.false_and, if_neg Bool.false_ne_true]
    exact congrArg Real.toEReal (signed_coe _ _ _ rfl)
  · rw [if_neg lowest, if_neg lowest]
    by_cases finite : format.exponentField pattern = format.exponentMask
    · have infinite : (format.fractionField pattern == 0) = true := by
        rw [isNaN, finite, beq_self_eq_true, Bool.true_and] at number
        simpa using number
      rw [if_neg (by omega), infinite, finite, beq_self_eq_true, Bool.and_self, if_pos rfl]
    · rw [if_pos (by omega), beq_eq_false_iff_ne.mpr finite, Bool.false_and,
        if_neg Bool.false_ne_true]
      exact congrArg Real.toEReal (signed_coe _ _ _ (by push_cast; rfl))

theorem significandOf?_eq {pattern : ℤ} (finite : format.isFinite pattern = true) :
    format.significandOf? pattern =
      some (format.significandAt (format.magnitudeField pattern)) := by
  have field : format.exponentField pattern ≠ format.exponentMask := by
    rwa [isFinite, bne_iff_ne] at finite
  unfold significandOf? significandAt
  dsimp only
  rw [if_neg field, ← exponentField_eq, ← fractionField_eq, apply_ite some]

theorem placeOf?_eq {pattern : ℤ} (finite : format.isFinite pattern = true) :
    format.placeOf? pattern = some (format.placeAt (format.magnitudeField pattern)) := by
  have field : format.exponentField pattern ≠ format.exponentMask := by
    rwa [isFinite, bne_iff_ne] at finite
  unfold placeOf? exponentOf? placeAt placeIndexAt
  dsimp only
  rw [if_neg field, ← exponentField_eq]
  by_cases lowest : format.exponentField pattern = 0
  · rw [if_pos lowest, lowest]
    simp [lowestPlace]
  · rw [if_neg lowest, Option.map_some]
    unfold bias lowestPlace emin
    congr 1
    omega

/-! ## The next pattern -/

/-- The pattern after a finite one that is not the largest has the same sign and the next number. -/
theorem succ_eq (fits : pattern < 2 ^ format.totalBits)
    (below : format.magnitudeField pattern + 1 < format.infinityOrdinal) :
    pattern + 1 < 2 ^ format.totalBits ∧
      format.isNegative (pattern + 1 : ℕ) = format.isNegative pattern ∧
      format.magnitudeField (pattern + 1 : ℕ) = format.magnitudeField pattern + 1 := by
  have whole := format.signBit_add_magnitudeField fits
  have small := below.trans format.infinityOrdinal_lt
  have next : pattern + 1 =
      format.signBit (format.isNegative pattern) + (format.magnitudeField pattern + 1) := by
    omega
  rw [next]
  exact ⟨format.signBit_add_lt _ small, format.isNegative_signBit_add _ small,
    format.magnitudeField_signBit_add _ small⟩

/-- Only the pattern after it is next to it, away from zero. -/
theorem isNext_iff (fits : pattern < 2 ^ format.totalBits)
    (below : format.magnitudeField pattern + 1 < format.infinityOrdinal) (next : ℕ) :
    format.IsNext pattern next ↔ next = pattern + 1 := by
  obtain ⟨fits', sign, number⟩ := format.succ_eq fits below
  constructor
  · rintro ⟨fitsNext, signNext, farther⟩
    rw [format.natAbs_toOrdinal fits, format.natAbs_toOrdinal fitsNext] at farther
    exact format.eq_of_magnitudeField_eq fitsNext fits' (signNext.trans sign.symm)
      (farther.trans number.symm)
  · rintro rfl
    refine ⟨fits', sign, ?_⟩
    rw [format.natAbs_toOrdinal fits', format.natAbs_toOrdinal fits, number]

theorem magnitudeField_succ_lt (fits : pattern < 2 ^ format.totalBits)
    (finite : format.isFinite pattern = true)
    (notLargest : ∀ negative, pattern ≠ format.maxFinite negative) :
    format.magnitudeField pattern + 1 < format.infinityOrdinal := by
  have whole := format.signBit_add_magnitudeField fits
  have other := notLargest (format.isNegative pattern)
  rw [isFinite_iff] at finite
  rw [maxFinite_eq] at other
  omega

/-- Its value is one unit in the last place away. -/
theorem abs_realOf_succ_sub (fits : pattern < 2 ^ format.totalBits)
    (below : format.magnitudeField pattern + 1 < format.infinityOrdinal) :
    |format.realOf (pattern + 1 : ℕ) - format.realOf pattern| =
      2 ^ format.placeAt (format.magnitudeField pattern) := by
  obtain ⟨-, sign, number⟩ := format.succ_eq fits below
  unfold realOf
  rw [sign, abs_signed_sub, magnitudeOf_eq, magnitudeOf_eq, number, magnitudeAt_succ,
    add_sub_cancel_left, abs_of_pos (by positivity)]

theorem scaledValue_of_finite {pattern : ℤ} (finite : format.isFinite pattern = true) :
    format.scaledValue pattern = format.realOf pattern := by
  rw [isFinite_iff] at finite
  rw [scaledValue_eq _ ((format.isNaN_eq_false_iff pattern).mpr finite.le), valueOf,
    if_neg (by rw [isInfinite_iff]; exact finite.ne)]

/-! ## The isomorphism -/

theorem scaledValue_lt_iff {first second : ℕ} (fits : first < 2 ^ format.totalBits)
    (fits' : second < 2 ^ format.totalBits) (number : format.isNaN first = false)
    (number' : format.isNaN second = false) :
    format.scaledValue first < format.scaledValue second ↔
      format.toOrdinal first < format.toOrdinal second := by
  rw [scaledValue_eq _ number, scaledValue_eq _ number', valueOf_eq_valueAt _ fits number,
    valueOf_eq_valueAt _ fits' number']
  exact format.valueAt_strictMonoOn.lt_iff_lt (format.natAbs_toOrdinal_le fits number)
    (format.natAbs_toOrdinal_le fits' number')

theorem scaledValue_eq_iff {first second : ℕ} (fits : first < 2 ^ format.totalBits)
    (fits' : second < 2 ^ format.totalBits) (number : format.isNaN first = false)
    (number' : format.isNaN second = false) :
    format.scaledValue first = format.scaledValue second ↔
      format.toOrdinal first = format.toOrdinal second := by
  rw [scaledValue_eq _ number, scaledValue_eq _ number', valueOf_eq_valueAt _ fits number,
    valueOf_eq_valueAt _ fits' number']
  exact format.valueAt_strictMonoOn.injOn.eq_iff (format.natAbs_toOrdinal_le fits number)
    (format.natAbs_toOrdinal_le fits' number')

theorem ofOrdinal_toOrdinal_eq_ite (fits : pattern < 2 ^ format.totalBits) :
    format.ofOrdinal (format.toOrdinal pattern) =
      if pattern = format.zero true then format.zero false else pattern := by
  have whole := format.signBit_add_magnitudeField fits
  rw [format.ofOrdinal_toOrdinal fits]
  by_cases negativeZero : pattern = format.zero true
  · have magnitude : format.magnitudeField pattern = 0 := by
      rw [negativeZero]
      exact format.magnitudeField_signBit_add true (Nat.two_pow_pos _)
    rw [if_pos magnitude, if_pos negativeZero]
    rfl
  · rw [if_neg negativeZero]
    by_cases magnitude : format.magnitudeField pattern = 0
    · have positive : format.isNegative pattern = false := by
        rw [Bool.eq_false_iff]
        intro negative
        rw [negative, magnitude, Nat.add_zero] at whole
        exact negativeZero whole.symm
      rw [positive, magnitude] at whole
      rw [if_pos magnitude, ← whole]
      rfl
    · rw [if_neg magnitude]

/-- Ordinals are an isomorphism of orders. Of patterns that are no NaNs the values are in the order
of the ordinals and equal with them; only the sign of zero is lost on the way back from an ordinal;
and the one pattern next to a finite one, away from zero, is one unit in the last place away, unless
that is the largest finite one. -/
theorem toOrdinal_orderIso :
    (∀ first second : ℕ, first < 2 ^ format.totalBits → second < 2 ^ format.totalBits →
      format.isNaN first = false → format.isNaN second = false →
        (format.scaledValue first < format.scaledValue second ↔
          format.toOrdinal first < format.toOrdinal second) ∧
        (format.scaledValue first = format.scaledValue second ↔
          format.toOrdinal first = format.toOrdinal second)) ∧
    (∀ pattern : ℕ, pattern < 2 ^ format.totalBits →
      format.ofOrdinal (format.toOrdinal pattern) =
        if pattern = format.zero true then format.zero false else pattern) ∧
    (∀ ordinal : ℤ, ordinal.natAbs < 2 ^ (format.totalBits - 1) →
      format.ofOrdinal ordinal < 2 ^ format.totalBits ∧
        format.toOrdinal (format.ofOrdinal ordinal) = ordinal) ∧
    (∀ pattern : ℕ, pattern < 2 ^ format.totalBits → format.isFinite pattern = true →
      (∀ negative, pattern ≠ format.maxFinite negative) →
        ∃! next : ℕ, format.IsNext pattern next ∧
          ∃ (place : ℤ) (value value' : ℝ), format.placeOf? pattern = some place ∧
            format.scaledValue pattern = value ∧ format.scaledValue next = value' ∧
            |value' - value| = 2 ^ place) := by
  refine ⟨fun first second fits fits' number number' =>
      ⟨format.scaledValue_lt_iff fits fits' number number',
        format.scaledValue_eq_iff fits fits' number number'⟩,
    fun pattern fits => format.ofOrdinal_toOrdinal_eq_ite fits,
    fun ordinal small => ⟨format.ofOrdinal_lt small, format.toOrdinal_ofOrdinal small⟩, ?_⟩
  intro pattern fits finite notLargest
  have below := format.magnitudeField_succ_lt fits finite notLargest
  have finite' : format.isFinite (pattern + 1 : ℕ) = true := by
    rw [isFinite_iff, (format.succ_eq fits below).2.2]
    exact below
  refine ⟨pattern + 1, ⟨(format.isNext_iff fits below _).mpr rfl, _, _, _,
    format.placeOf?_eq finite, format.scaledValue_of_finite finite,
    format.scaledValue_of_finite finite', format.abs_realOf_succ_sub fits below⟩, ?_⟩
  rintro other ⟨next, -⟩
  exact (format.isNext_iff fits below other).mp next

/-- In the half format the largest subnormal value and the least normal one are neighbours, and so
are two normal ones around a power of two. -/
theorem toOrdinal_orderIso_half :
    (half.scaledValue 1023 < half.scaledValue 1024 ↔
        half.toOrdinal 1023 < half.toOrdinal 1024) ∧
      half.ofOrdinal (half.toOrdinal 0x8000) = 0 ∧
      half.toOrdinal (half.ofOrdinal (-31744)) = -31744 ∧
      ∃! next : ℕ, half.IsNext 0xbbff next ∧
        ∃ (place : ℤ) (value value' : ℝ), half.placeOf? 0xbbff = some place ∧
          half.scaledValue 0xbbff = value ∧ half.scaledValue next = value' ∧
          |value' - value| = 2 ^ place :=
  ⟨(half.toOrdinal_orderIso.1 1023 1024 (by decide) (by decide) (by decide) (by decide)).1,
    half.toOrdinal_orderIso.2.1 0x8000 (by decide),
    (half.toOrdinal_orderIso.2.2.1 (-31744) (by decide)).2,
    half.toOrdinal_orderIso.2.2.2 0xbbff (by decide) (by decide) (by decide)⟩

end LibmAudit.Format
