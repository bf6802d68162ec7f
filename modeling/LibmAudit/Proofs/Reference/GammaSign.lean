/-
**The sign of the gamma function.**

Below zero the gamma function changes its sign at each integer. The reference library finds the sign
in the digits of the magnitude, the native library in the integer below the number, which it
converts to the 64-bit format first.

* `Gamma_signed`: the sign of the gamma function between two integers.
* `floor_dyadic`: the integer below a significand at a place. `Native.floor?_eq`: the native library
  finds it.
* `Format.IsGammaNegative`, `Format.signOfGamma`: where the sign is negative, and the sign.
* `Reference.gammaSign_eq`, `Native.gammaSign_eq`: both libraries find it.
* `LibraryKind.call_lgamma_r`: so it is the second output of both.
-/

import LibmAudit.Proofs.Check.Integer
import LibmAudit.Proofs.Multiprecision.Completion
import LibmAudit.Proofs.Native.Agreement
import Mathlib.Analysis.SpecialFunctions.Gamma.Basic

namespace LibmAudit

attribute [local instance (high)] instPowNat

/-! ## The function -/

/-- Between the integers `-n` and `-n + 1` the gamma function has the sign of `(-1) ^ n`. -/
theorem Gamma_signed (n : ℕ) {x : ℝ} (below : ⌊x⌋ = -(n : ℤ)) (fraction : ∀ m : ℤ, x ≠ m) :
    0 < (-1) ^ n * Real.Gamma x := by
  -- By the recurrence `Γ (x + 1) = x * Γ x`, from one interval to the next one below it.
  induction n generalizing x with
  | zero =>
    have nonneg : 0 ≤ x := Int.floor_nonneg.mp (by rw [below]; exact le_rfl)
    have positive : 0 < x := lt_of_le_of_ne nonneg fun zero => fraction 0 (by simp [← zero])
    rw [pow_zero, one_mul]
    exact Real.Gamma_pos_of_pos positive
  | succ n induction =>
    have negative : x < 0 := by
      rw [← Int.floor_lt_zero, below]
      omega
    have next : 0 < (-1) ^ n * Real.Gamma (x + 1) := by
      refine induction ?_ fun m same => fraction (m - 1) ?_
      · rw [Int.floor_add_one, below]
        push_cast
        ring
      · rw [Int.cast_sub, ← same, Int.cast_one, add_sub_cancel_right]
    rw [Real.Gamma_add_one negative.ne] at next
    have product : (-1) ^ n * (x * Real.Gamma x) = -x * ((-1) ^ (n + 1) * Real.Gamma x) := by
      rw [pow_succ]
      ring
    rw [product] at next
    exact pos_of_mul_pos_right next (neg_pos.mpr negative).le

/-! ## Integers below -/

/-- The integer below a significand at a place. -/
theorem floor_dyadic (significand exponent : ℤ) :
    ⌊(significand * 2 ^ exponent : ℝ)⌋ =
      if 0 ≤ exponent then significand * (2 ^ exponent.toNat : ℕ)
      else significand / (2 ^ (-exponent).toNat : ℕ) := by
  split
  · next nonneg =>
    obtain ⟨places, rfl⟩ := Int.eq_ofNat_of_zero_le nonneg
    rw [Int.toNat_natCast, zpow_natCast]
    exact_mod_cast Int.floor_intCast (R := ℝ) (significand * (2 ^ places : ℕ))
  · next negative =>
    obtain ⟨places, same⟩ := Int.eq_ofNat_of_zero_le (show 0 ≤ -exponent by omega)
    have quotient := Int.floor_div_natCast (significand : ℝ) (2 ^ places)
    rw [Int.floor_intCast] at quotient
    rw [same, Int.toNat_natCast, ← quotient, ← neg_neg exponent, same, zpow_neg, zpow_natCast,
      ← div_eq_mul_inv, Nat.cast_pow, Nat.cast_ofNat]

/-- The integer below a number below zero that is no integer itself. -/
theorem neg_ediv_of_rest {significand unit : ℕ} (positive : 0 < unit)
    (rest : significand % unit ≠ 0) :
    -(significand : ℤ) / unit = -((significand / unit : ℕ) : ℤ) - 1 := by
  have fraction : ¬ (unit : ℤ) ∣ significand := by
    rwa [Int.natCast_dvd_natCast, Nat.dvd_iff_mod_eq_zero]
  rw [Int.neg_ediv, if_neg fraction, Int.sign_natCast_of_ne_zero positive.ne', Int.natCast_ediv]

/-- When a significand at a place is an integer. -/
theorem exists_dyadic_eq_intCast_iff (significand exponent : ℤ) :
    (∃ n : ℤ, (significand * 2 ^ exponent : ℝ) = n) ↔
      0 ≤ exponent ∨ significand % (2 ^ (-exponent).toNat : ℕ) = 0 := by
  simp only [dyadic_eq_intCast_iff]
  constructor
  · rintro ⟨n, ⟨nonneg, -⟩ | ⟨-, divides, -⟩⟩
    · exact Or.inl nonneg
    · exact Or.inr divides
  · intro whole
    rcases le_or_gt 0 exponent with nonneg | negative
    · exact ⟨_, Or.inl ⟨nonneg, rfl⟩⟩
    · exact ⟨_, Or.inr ⟨negative, whole.resolve_left (not_le.mpr negative), rfl⟩⟩

/-- The native library finds the integer below a finite value. -/
theorem Native.floor?_eq (format : Format) {pattern : ℕ}
    (finite : format.isFinite pattern = true) :
    floor? format pattern = some ⌊format.realOf pattern⌋ := by
  obtain ⟨significand, place, scaled, real⟩ := format.exists_scaled? finite
  rw [floor?, scaled, real, floor_dyadic]
  rfl

/-! ## The sign -/

namespace Format

/-- Where the sign of the gamma function is negative: at the negative zero, and below zero where a
number is no integer and the integer below it is odd. -/
def IsGammaNegative (format : Format) (pattern : ℕ) : Prop :=
  format.isFinite pattern = true ∧
    ((format.realOf pattern = 0 ∧ format.isNegative pattern = true) ∨
      (format.realOf pattern < 0 ∧ (∀ n : ℤ, format.realOf pattern ≠ n) ∧
        Odd ⌊format.realOf pattern⌋))

open scoped Classical in
/-- The sign of the gamma function: that of a zero is its own, and infinities, NaNs and the poles
below zero have a positive one. -/
noncomputable def signOfGamma (format : Format) (pattern : ℕ) : ℤ :=
  if format.IsGammaNegative pattern then -1 else 1

variable {format : Format} {pattern : ℕ}

theorem signOfGamma_of_not_finite (special : format.isFinite pattern = false) :
    format.signOfGamma pattern = 1 :=
  if_neg fun negative => Bool.false_ne_true (special.symm.trans negative.1)

theorem isFinite_of_isZero (format : Format) {pattern : ℤ} (zero : format.isZero pattern = true) :
    format.isFinite pattern = true := by
  rw [isFinite_iff, (format.isZero_iff pattern).mp zero]
  exact format.infinityOrdinal_pos

/-- The sign at a zero. -/
theorem signOfGamma_of_isZero (zero : format.isZero pattern = true) :
    format.signOfGamma pattern = if format.isNegative pattern then -1 else 1 := by
  have finite := format.isFinite_of_isZero zero
  have real := (format.realOf_eq_zero_iff pattern).mpr zero
  unfold signOfGamma IsGammaNegative
  simp [finite, real]

/-- Between two integers below zero the sign is negative if the lower one is odd. -/
theorem signOfGamma_of_fraction (finite : format.isFinite pattern = true)
    (negative : format.realOf pattern < 0) (fraction : ∀ n : ℤ, format.realOf pattern ≠ n) :
    format.signOfGamma pattern = if ⌊format.realOf pattern⌋ % 2 = 1 then -1 else 1 := by
  classical
  refine if_congr ?_ rfl rfl
  rw [← Int.odd_iff]
  exact ⟨fun holds => (holds.2.resolve_left fun zero => negative.ne zero.1).2.2,
    fun odd => ⟨finite, Or.inr ⟨negative, fraction, odd⟩⟩⟩

/-- At the integers below zero and above zero the sign is positive. -/
theorem signOfGamma_of_whole (nonzero : format.realOf pattern ≠ 0)
    (whole : format.realOf pattern < 0 → ∃ n : ℤ, format.realOf pattern = n) :
    format.signOfGamma pattern = 1 := by
  refine if_neg ?_
  rintro ⟨-, ⟨zero, -⟩ | ⟨negative, fraction, -⟩⟩
  · exact nonzero zero
  · obtain ⟨n, same⟩ := whole negative
    exact fraction n same

/-- A value other than zero is on the side of zero that its sign tells. -/
theorem realOf_neg_iff (nonzero : format.realOf pattern ≠ 0) :
    format.realOf pattern < 0 ↔ format.isNegative pattern = true := by
  have magnitude : 0 ≤ format.magnitudeOf pattern := by
    rw [magnitudeOf_eq]
    exact format.magnitudeAt_nonneg _
  unfold realOf at nonzero ⊢
  cases sign : format.isNegative pattern with
  | false => exact iff_of_false (not_lt.mpr magnitude) Bool.false_ne_true
  | true =>
    rw [sign] at nonzero
    exact iff_of_true (lt_of_le_of_ne (neg_nonpos.mpr magnitude) nonzero) rfl

end Format

/-- Below zero the reference library finds the sign in the digits of the magnitude. -/
theorem Reference.gammaSign_negative {format : Format} {ordinal : ℕ} (positive : 0 < ordinal)
    (finite : ordinal < format.infinityOrdinal) :
    gammaSign format (format.signBit true + ordinal) =
      format.signOfGamma (format.signBit true + ordinal) := by
  have small := finite.trans format.infinityOrdinal_lt
  have isFinite := format.isFinite_signBit_add true finite
  have sign := format.isNegative_signBit_add true small
  have isZero : format.isZero (format.signBit true + ordinal : ℕ) = false := by
    rw [Bool.eq_false_iff, Ne, format.isZero_iff, format.magnitudeField_signBit_add true small]
    exact positive.ne'
  have parts := parts?_signBit_add true positive finite
  have real := format.realOf_of_scaled? (Number.scaled?_signBit_add true finite)
  rw [if_pos rfl] at real
  rw [gammaSign, format.isNaN_signBit_add true finite, sign, isZero, parts]
  generalize format.signBit true + ordinal = pattern at isFinite sign isZero real
  have nonzero : format.realOf pattern ≠ 0 := by
    rw [Ne, Format.realOf_eq_zero_iff, isZero]
    exact Bool.false_ne_true
  have below := (Format.realOf_neg_iff nonzero).mpr sign
  have whole_iff := exists_dyadic_eq_intCast_iff (-format.significandAt ordinal)
    (format.placeAt ordinal)
  have floor := floor_dyadic (-format.significandAt ordinal) (format.placeAt ordinal)
  rw [← real, ← Int.dvd_iff_emod_eq_zero, dvd_neg, Int.natCast_dvd_natCast,
    Nat.dvd_iff_mod_eq_zero] at whole_iff
  rw [← real] at floor
  simp only [Bool.not_true, Bool.false_eq_true, or_self, if_false]
  split
  · next whole => exact (Format.signOfGamma_of_whole nonzero fun _ => whole_iff.mpr whole).symm
  · next fraction =>
    have apart (n : ℤ) : format.realOf pattern ≠ n := fun at_n =>
      fraction (whole_iff.mp ⟨n, at_n⟩)
    rw [not_or] at fraction
    rw [Format.signOfGamma_of_fraction isFinite below apart, floor, if_neg fraction.1,
      neg_ediv_of_rest (Nat.two_pow_pos _) fraction.2]
    refine if_congr ?_ rfl rfl
    omega

/-- The reference library finds the sign. -/
theorem Reference.gammaSign_eq {format : Format} {pattern : ℕ}
    (fits : pattern < 2 ^ format.totalBits) :
    gammaSign format pattern = format.signOfGamma pattern := by
  cases class_of_fits fits with
  | nan isNaN =>
    rw [Format.signOfGamma_of_not_finite (format.isFinite_eq_false_of_isNaN isNaN)]
    exact if_pos (Or.inl isNaN)
  | infinite negative same isNaN isInfinite parts =>
    have nonzero := Format.isZero_eq_false_of_isInfinite isInfinite
    rw [Format.signOfGamma_of_not_finite (format.isFinite_eq_false_of_isInfinite isInfinite)]
    simp [gammaSign, parts, nonzero]
  | zero negative same isNaN isInfinite isZero parts =>
    rw [Format.signOfGamma_of_isZero isZero, gammaSign]
    cases format.isNegative pattern <;> simp [isNaN, isZero]
  | finite negative ordinal positive finite same isNaN isInfinite isZero parts =>
    cases negative with
    | false =>
      have sign : format.isNegative pattern = false := by
        rw [same, format.isNegative_signBit_add false (finite.trans format.infinityOrdinal_lt)]
      have nonzero : format.realOf pattern ≠ 0 := by
        rw [Ne, Format.realOf_eq_zero_iff, isZero]
        exact Bool.false_ne_true
      have above : ¬ format.realOf pattern < 0 := by
        rw [Format.realOf_neg_iff nonzero, sign]
        exact Bool.false_ne_true
      rw [Format.signOfGamma_of_whole nonzero fun below => absurd below above]
      simp [gammaSign, sign]
    | true =>
      rw [same]
      exact gammaSign_negative positive finite

/-! ## By way of the 64-bit format -/

/-- Conversion to the 64-bit format keeps the sign. -/
theorem Carrier.isNegative_convert_double {source : Carrier} {pattern : ℕ}
    (finite : source.format.isFinite pattern = true) :
    Format.double.isNegative (source.convert .double pattern) =
      source.format.isNegative pattern := by
  by_cases same : source = double
  · subst same
    rfl
  · obtain ⟨flags, rounding⟩ := convertOnce_isRounding same finite
    rw [source.convert_double]
    exact rounding.sign

namespace Native

variable {format : Format} {pattern : ℕ}

/-- The sign that the native library finds is that of the converted number. -/
theorem gammaSign_toDouble (format : Format) (pattern : ℕ) :
    gammaSign format pattern = Format.double.signOfGamma (toDouble format pattern) := by
  unfold gammaSign
  generalize toDouble format pattern = wide
  dsimp only
  cases finite : Format.double.isFinite wide with
  | false =>
    have nonzero : ¬ Format.double.isZero wide = true := fun zero =>
      Bool.false_ne_true (finite.symm.trans (Format.double.isFinite_of_isZero zero))
    rw [if_neg nonzero, Format.signOfGamma_of_not_finite finite, floor?,
      Format.double.scaled?_of_not_finite finite]
    rfl
  | true =>
    rw [floor?_eq _ finite]
    dsimp only
    split
    · next zero => exact (Format.signOfGamma_of_isZero zero).symm
    · next nonzero =>
      rw [← Format.realOf_eq_zero_iff] at nonzero
      have below := Format.realOf_neg_iff nonzero
      have none_iff : Reference.integer? Format.double wide = none ↔
          ∀ n : ℤ, Format.double.realOf wide ≠ n := by
        simp [Option.eq_none_iff_forall_ne_some, Reference.integer?_eq_some_iff, finite]
      split
      · next both =>
        rw [← below, none_iff] at both
        exact (Format.signOfGamma_of_fraction finite both.1 both.2).symm
      · next either =>
        rw [← below, none_iff] at either
        refine (Format.signOfGamma_of_whole nonzero fun negative => ?_).symm
        by_contra apart
        exact either ⟨negative, fun n at_n => apart ⟨n, at_n⟩⟩

/-- Up to the 64-bit format the native library finds the sign. -/
theorem gammaSign_eq {carrier : Carrier} (narrow : carrier ≠ .extended) (pattern : ℕ) :
    gammaSign carrier.format pattern = carrier.format.signOfGamma pattern := by
  rw [gammaSign_toDouble, toDouble, Format.carrier?_format]
  dsimp only
  cases finite : carrier.format.isFinite pattern with
  | false =>
    have special := @Carrier.convertOnce_not_finite carrier .double pattern finite
    rw [← carrier.convert_double] at special
    rw [Format.signOfGamma_of_not_finite finite]
    exact Format.signOfGamma_of_not_finite special
  | true =>
    obtain ⟨converted, same⟩ := Carrier.realOf_convert_double finite
      ((Carrier.double_widens narrow).valueOf_mem finite)
    have sign := Carrier.isNegative_convert_double finite
    unfold Format.signOfGamma Format.IsGammaNegative
    rw [same, sign, converted, finite]

end Native

/-! ## Both libraries -/

variable {format : Format} {pattern other : ℕ}

namespace Format

/-- A number below zero that is no integer has the other sign than its predecessor. -/
theorem signOfGamma_pred (finite : format.isFinite pattern = true)
    (negative : format.realOf pattern < 0) (fraction : ∀ n : ℤ, format.realOf pattern ≠ n)
    (finite' : format.isFinite other = true)
    (pred : format.realOf other = format.realOf pattern - 1) :
    format.signOfGamma other = -format.signOfGamma pattern := by
  have apart (n : ℤ) : format.realOf other ≠ n := fun at_n => fraction (n + 1) (by
    rw [Int.cast_add, ← at_n, pred, Int.cast_one, sub_add_cancel])
  rw [signOfGamma_of_fraction finite negative fraction,
    signOfGamma_of_fraction finite' (by linarith) apart, pred, Int.floor_sub_one]
  split_ifs <;> omega

/-- The sign is that of the gamma function, wherever that is defined. -/
theorem signOfGamma_mul_Gamma_pos (finite : format.isFinite pattern = true)
    (regular : ∀ n : ℕ, format.realOf pattern ≠ -n) :
    0 < format.signOfGamma pattern * Real.Gamma (format.realOf pattern) := by
  have nonzero : format.realOf pattern ≠ 0 := by simpa using regular 0
  rcases lt_or_gt_of_ne nonzero with negative | positive
  · have fraction (n : ℤ) : format.realOf pattern ≠ n := fun at_n => by
      refine regular (-n).toNat ?_
      have below : n < 0 := by exact_mod_cast at_n ▸ negative
      rw [at_n, ← Int.cast_natCast, Int.toNat_of_nonneg (by omega), Int.cast_neg, neg_neg]
    obtain ⟨n, below⟩ := Int.eq_ofNat_of_zero_le
      (show 0 ≤ -⌊format.realOf pattern⌋ by have := Int.floor_lt_zero.mpr negative; omega)
    have signed := Gamma_signed n (by omega) fraction
    have sign : ((format.signOfGamma pattern : ℤ) : ℝ) = (-1) ^ n := by
      rw [signOfGamma_of_fraction finite negative fraction]
      rcases Nat.even_or_odd n with even | odd
      · rw [even.neg_one_pow, if_neg (by have := Nat.even_iff.mp even; omega), Int.cast_one]
      · rw [odd.neg_one_pow, if_pos (by have := Nat.odd_iff.mp odd; omega), Int.cast_neg,
          Int.cast_one]
    rwa [sign]
  · rw [signOfGamma_of_whole nonzero fun negative => absurd negative positive.not_gt,
      Int.cast_one, one_mul]
    exact Real.Gamma_pos_of_pos positive

end Format

namespace LibraryKind

/-- **`lgamma_r` tells the sign of the gamma function.** The reference library always ends with a
value and the sign. The native library, which has the routine up to the 64-bit format, ends with the
same sign. A number below zero that is no integer and the one that is less by one have opposite
signs, and where the gamma function is defined the sign is that of the function. -/
theorem call_lgamma_r {carrier : Carrier} (stored : format.carrier? = some carrier) :
    reference.lookup .lgamma_r format = .ok () ∧
    (∀ fused, (native fused).lookup .lgamma_r format = .ok () ↔ carrier ≠ .extended) ∧
    ∀ pattern < 2 ^ format.totalBits,
      (∀ kind : LibraryKind, kind.lookup .lgamma_r format = .ok () → ∀ mode, ∃ value flags,
        kind.call .lgamma_r format mode [.float pattern] =
          .ok ⟨[.float value, .int (format.signOfGamma pattern)], flags⟩) ∧
      (format.isFinite pattern = true →
        (format.realOf pattern < 0 → (∀ n : ℤ, format.realOf pattern ≠ n) →
          ∀ other : ℕ, other < 2 ^ format.totalBits → format.isFinite other = true →
            format.realOf other = format.realOf pattern - 1 →
            format.signOfGamma other = -format.signOfGamma pattern) ∧
        ((∀ n : ℕ, format.realOf pattern ≠ -n) →
          0 < format.signOfGamma pattern * Real.Gamma (format.realOf pattern))) := by
  obtain rfl := Format.format_of_carrier? stored
  have provided (fused : Bool) :
      (native fused).lookup .lgamma_r carrier.format = .ok () ↔ carrier ≠ .extended := by
    cases carrier with
    | half | single | double => exact iff_of_true rfl (by decide)
    | extended => exact iff_of_false nofun (not_not.mpr rfl)
  refine ⟨by cases carrier <;> rfl, provided, fun pattern fits => ⟨?_, fun finite => ⟨?_, ?_⟩⟩⟩
  · intro kind available mode
    have kinds : [SlotValue.float pattern].map SlotValue.slot =
        (Routine.shape .lgamma_r).inputs := rfl
    cases kind with
    | reference =>
      obtain ⟨rounded, given⟩ : ∃ rounded,
          Reference.operationPattern .lgamma carrier.format mode false [pattern] = .ok rounded := by
        unfold Reference.operationPattern
        split
        · exact ⟨_, rfl⟩
        · exact Operation.lgamma_completes carrier.ranged carrier.precise mode fits
      refine ⟨rounded.pattern, rounded.flags, ?_⟩
      rw [call_reference kinds, ← Reference.gammaSign_eq fits]
      change Reference.lgammaWithSign _ _ _ = _
      rw [Reference.lgammaWithSign, given]
      rfl
    | native fused =>
      rw [call_native kinds, ← Native.gammaSign_eq ((provided fused).mp available)]
      exact ⟨_, _, rfl⟩
  · intro negative fraction other _ finite' pred
    exact Format.signOfGamma_pred finite negative fraction finite' pred
  · exact Format.signOfGamma_mul_Gamma_pos finite

/-- Minus one half has a negative sign, and minus three halves, one below it, a positive one. -/
theorem call_lgamma_r_half :
    Format.half.carrier? = some .half ∧
      (∃ value flags, reference.call .lgamma_r .half .up [.float 0xb800] =
        .ok ⟨[.float value, .int (-1)], flags⟩) ∧
      ∀ fused, ∃ value flags, (native fused).call .lgamma_r .half .up [.float 0xbe00] =
        .ok ⟨[.float value, .int 1], flags⟩ := by
  have stored : Format.half.carrier? = some .half := by decide
  obtain ⟨provided, provided', calls⟩ := call_lgamma_r stored
  have first : Format.half.signOfGamma 0xb800 = -1 := by
    rw [← Reference.gammaSign_eq (by decide)]
    decide
  have second : Format.half.signOfGamma 0xbe00 = 1 := by
    have real := Format.half.realOf_of_scaled? (show _ = some (-1024, -11) by decide :
      Format.half.scaled? (0xb800 : ℕ) = some (-1024, -11))
    have real' := Format.half.realOf_of_scaled? (show _ = some (-1536, -10) by decide :
      Format.half.scaled? (0xbe00 : ℕ) = some (-1536, -10))
    have apart (n : ℤ) : Format.half.realOf (0xb800 : ℕ) ≠ n := fun at_n => by
      have whole := (Reference.integer?_eq_some_iff Format.half n).mpr ⟨by decide, at_n⟩
      exact nomatch (show none = some n from whole)
    have opposite := ((calls 0xb800 (by decide)).2 (by decide)).1 (by rw [real]; norm_num) apart
      0xbe00 (by decide) (by decide) (by rw [real, real']; norm_num)
    rw [opposite, first]
    rfl
  refine ⟨stored, ?_, fun fused => ?_⟩
  · obtain ⟨value, flags, called⟩ := (calls 0xb800 (by decide)).1 .reference provided .up
    rw [first] at called
    exact ⟨value, flags, called⟩
  · obtain ⟨value, flags, called⟩ :=
      (calls 0xbe00 (by decide)).1 (.native fused) ((provided' fused).mpr (by decide)) .up
    rw [second] at called
    exact ⟨value, flags, called⟩

end LibraryKind

end LibmAudit
