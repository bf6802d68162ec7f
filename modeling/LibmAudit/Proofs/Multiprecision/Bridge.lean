/-
**From patterns to multiprecision numbers and back.**

A pattern whose exponents multiprecision numbers can have is read exactly, and its number is rounded
once into any format. The exponents of formats with more than thirty exponent bits are not all among
them. Such a pattern is refused.

* `Format.IsHeld`: the patterns with exponents in range. `Format.isHeld_of_ranged`: where all are.
* `Number.ofPattern_of_held`, `ofPattern_of_not_held`: what is read of a pattern.
* `Number.toPattern_finite`: a number is rounded once.
* `Format.widens_of_le`: formats with more bits have the values of those with fewer.
* `Number.Bridges`: what reading and rounding have to give. `Number.bridges`: they do.
-/

import LibmAudit.Proofs.Check.Integer
import LibmAudit.Proofs.Multiprecision.Reading

namespace LibmAudit

attribute [local instance (high)] instPowNat

/-! ## Exponents in range -/

namespace Format

/-- The number of a pattern has exponents in the range of multiprecision numbers, if it has any. -/
def IsHeld (format : Format) (pattern : ℕ) : Prop :=
  ∀ value, Number.read format pattern = .finite value → Number.isInRange value = true

/-- A format with at least as many bits for the exponent and for the significand is wider. -/
theorem widens_of_le {wide narrow : Format} (exponents : narrow.exponentBits ≤ wide.exponentBits)
    (precision : narrow.precision ≤ wide.precision) : wide.Widens narrow := by
  have power : 2 ^ (narrow.exponentBits - 1) ≤ 2 ^ (wide.exponentBits - 1) :=
    Nat.pow_le_pow_right two_pos (by omega)
  have range : narrow.emax ≤ wide.emax := by
    unfold emax
    omega
  refine ⟨precision, ?_, range⟩
  unfold lowestPlace emin fractionBits
  omega

/-! ## Infinities and zeros -/

variable (format : Format) (negative : Bool)

theorem isNegative_infinity : format.isNegative (format.infinity negative : ℕ) = negative :=
  format.isNegative_signBit_add negative format.infinityOrdinal_lt

theorem isInfinite_infinity : format.isInfinite (format.infinity negative : ℕ) = true :=
  (format.isInfinite_iff _).mpr
    (format.magnitudeField_signBit_add negative format.infinityOrdinal_lt)

theorem valueOf_infinity : format.valueOf (format.infinity negative : ℕ) = signed negative ⊤ := by
  rw [← format.extendedAt_infinityOrdinal]
  exact format.valueOf_signBit_add negative le_rfl

theorem isNegative_zero : format.isNegative (format.zero negative : ℕ) = negative :=
  format.isNegative_signBit_add negative (Nat.two_pow_pos _)

end Format

namespace Number

variable {format source target : Format} {pattern : ℕ}

/-- A held pattern is read as it is. -/
theorem ofPattern_of_held (held : format.IsHeld pattern) :
    ofPattern format pattern = .ok (read format pattern) := by
  unfold ofPattern
  cases given : read format pattern with
  | finite value => exact if_pos (held value given)
  | nan | infinity _ | zero _ => rfl

/-- Every other pattern is refused. -/
theorem ofPattern_of_not_held (beyond : ¬ format.IsHeld pattern) :
    ofPattern format pattern = .error .resultInexact := by
  unfold Format.IsHeld at beyond
  push Not at beyond
  obtain ⟨value, given, outside⟩ := beyond
  rw [ofPattern, given]
  exact if_neg outside

/-- The exponents of smaller formats are all in range. -/
theorem isHeld_of_ranged (ranged : format.emax + format.fractionBits < exponentLimit)
    (fits : pattern < 2 ^ format.totalBits) : format.IsHeld pattern := by
  by_contra beyond
  have refused := ofPattern_of_not_held beyond
  rw [ofPattern_of_fits ranged fits] at refused
  exact absurd refused nofun

/-! ## Into a format -/

/-- A number with its exponents in range has its leading digit in range, and no more bits without
its trailing zeros than an exponent can count. -/
theorem bounds_of_isInRange {value : Dyadic} (nonzero : value.significand ≠ 0)
    (inRange : isInRange value = true) :
    -exponentLimit ≤ value.top ∧ bitLength value.reduced.significand ≤ exponentLimit := by
  rw [isInRange, decide_eq_true_eq] at inRange
  have length := bitLength_pos nonzero
  have shorter : bitLength value.reduced.significand ≤ bitLength value.significand := by
    have least : value.reduced.significand ≤ value.significand :=
      Dyadic.significand_le_of_odd (Dyadic.reduced_odd nonzero) value.reduced_magnitude
    exact bitLength_le_iff.mpr (least.trans_lt (lt_two_pow_bitLength _))
  unfold Dyadic.top
  omega

/-- An exact number with its exponents in range is rounded once into a format. -/
theorem toPattern_finite (format : Format) (mode : Mode) {value : Dyadic}
    (nonzero : value.significand ≠ 0) (inRange : isInRange value = true) (precision : ℕ) :
    toPattern format mode (.finite value) false precision =
      .ok (format.roundReal mode value.negative value.magnitude) := by
  have kept : value.reduced.significand ≠ 0 := by
    rwa [Dyadic.significand_ne_zero_iff, Dyadic.reduced_magnitude, ← Dyadic.significand_ne_zero_iff]
  have same : (padded format value).magnitude = value.magnitude :=
    (widened_magnitude format value.reduced).trans value.reduced_magnitude
  have wide : (padded format value).significand ≠ 0 := by
    rwa [Dyadic.significand_ne_zero_iff, same, ← Dyadic.significand_ne_zero_iff]
  have given : StandsFor (padded format value).significand (padded format value).exponent false
      value.magnitude := by
    rw [← same]
    exact (padded format value).standsFor_magnitude
  have length : bitLength (padded format value).significand =
      max (bitLength value.reduced.significand) (format.precision + 2) :=
    bitLength_widened format kept
  have top : (padded format value).exponent + bitLength (padded format value).significand =
      value.top := (widened_top format kept).trans (Dyadic.reduced_top nonzero)
  show format.round mode value.negative (padded format value).significand
    (padded format value).exponent false = _
  refine Format.round_eq mode value.negative given wide (Or.inr rfl) ?_
  obtain ⟨above, short⟩ := bounds_of_isInRange nonzero inRange
  have width := format.fractionBits_add_one
  have range := format.one_le_emax
  have limit := storageLimit_eq
  unfold exponentLimit at above short
  unfold Format.placeFor Format.leadingExponent Format.emin
  omega

/-! ## Both ways -/

/-- The number has the value of a pattern and its sign. -/
inductive IsNumberOf (format : Format) (pattern : ℕ) : Number → Prop
  | infinity (infinite : format.isInfinite pattern = true) :
      IsNumberOf format pattern (.infinity (format.isNegative pattern))
  | zero (isZero : format.isZero pattern = true) :
      IsNumberOf format pattern (.zero (format.isNegative pattern))
  | finite {value : Dyadic} (nonzero : value.significand ≠ 0)
      (sign : value.negative = format.isNegative pattern)
      (same : value.toReal = format.realOf pattern) : IsNumberOf format pattern (.finite value)

/-- The result is that of rounding the value of a pattern once into another format. -/
inductive IsCrossing (source target : Format) (mode : Mode) (pattern : ℕ) : Rounded → Prop
  | infinite (isInfinite : source.isInfinite pattern = true) :
      IsCrossing source target mode pattern ⟨target.infinity (source.isNegative pattern), .none⟩
  | finite (isFinite : source.isFinite pattern = true) {result : Rounded}
      (rounding :
        target.IsRounding mode (source.isNegative pattern) |source.realOf pattern| result) :
      IsCrossing source target mode pattern result

/-- What becomes of a pattern that is no NaN. It is read exactly, comes back as it is, and is
rounded once into every format. A format with more bits keeps its value and gives it back in every
mode, if its own pattern is held. -/
structure Bridges (source target : Format) (mode : Mode) (pattern : ℕ) (number : Number) :
    Prop where
  read : ofPattern source pattern = .ok number
  exact : IsNumberOf source pattern number
  same : ∀ precision, number.toPattern source mode false precision = .ok ⟨pattern, .none⟩
  rounded : ∀ precision, ∃ result, number.toPattern target mode false precision = .ok result ∧
    IsCrossing source target mode pattern result
  widened : source.exponentBits ≤ target.exponentBits → source.precision ≤ target.precision →
    ∃ other, (∀ precision, number.toPattern target mode false precision = .ok ⟨other, .none⟩) ∧
      target.valueOf other = source.valueOf pattern ∧
      (target.IsHeld other → ∃ again, ofPattern target other = .ok again ∧
        ∀ back precision, again.toPattern source back false precision = .ok ⟨pattern, .none⟩)

theorem ofPattern_infinity (format : Format) (negative : Bool) :
    ofPattern format (format.infinity negative : ℕ) = .ok (.infinity negative) := by
  rw [ofPattern, read_of_isInfinite (format.isInfinite_infinity negative),
    format.isNegative_infinity]

theorem ofPattern_zero (format : Format) (negative : Bool) :
    ofPattern format (format.zero negative : ℕ) = .ok (.zero negative) := by
  have given := read_signBit_add negative format.infinityOrdinal_pos
  rw [Nat.add_zero, if_pos rfl] at given
  rw [ofPattern, Format.zero, given]

variable (source target : Format) (mode : Mode) (negative : Bool)

theorem bridges_infinity :
    Bridges source target mode (source.infinity negative) (.infinity negative) := by
  have isInfinite := source.isInfinite_infinity negative
  have exact := IsNumberOf.infinity isInfinite
  have crossing := @IsCrossing.infinite source target mode _ isInfinite
  rw [source.isNegative_infinity] at exact crossing
  refine ⟨ofPattern_infinity source negative, exact, fun _ => rfl,
    fun _ => ⟨_, rfl, crossing⟩, fun _ _ => ⟨target.infinity negative, fun _ => rfl, ?_, ?_⟩⟩
  · rw [source.valueOf_infinity, target.valueOf_infinity]
  · exact fun _ => ⟨_, ofPattern_infinity target negative, fun _ _ => rfl⟩

theorem bridges_zero : Bridges source target mode (source.zero negative) (.zero negative) := by
  have sign := source.isNegative_zero negative
  have isFinite : source.isFinite (source.zero negative : ℕ) = true :=
    source.isFinite_signBit_add negative source.infinityOrdinal_pos
  have exact := IsNumberOf.zero (source.isZero_zero negative)
  rw [sign] at exact
  have rounding : target.IsRounding mode (source.isNegative (source.zero negative : ℕ))
      |source.realOf (source.zero negative : ℕ)| ⟨target.zero negative, .none⟩ := by
    rw [sign, source.realOf_zero negative, abs_zero]
    exact target.zero_isRounding mode negative
  refine ⟨ofPattern_zero source negative, exact, fun _ => rfl,
    fun _ => ⟨_, rfl, .finite isFinite rounding⟩,
    fun _ _ => ⟨target.zero negative, fun _ => rfl, ?_, ?_⟩⟩
  · rw [source.valueOf_zero negative, target.valueOf_zero negative]
  · exact fun _ => ⟨_, ofPattern_zero target negative, fun _ _ => rfl⟩

theorem bridges_finite {ordinal : ℕ} (positive : 0 < ordinal)
    (finite : ordinal < source.infinityOrdinal)
    (held : source.IsHeld (source.signBit negative + ordinal)) :
    Bridges source target mode (source.signBit negative + ordinal)
      (.finite (source.dyadicAt negative ordinal)) := by
  have small := finite.trans source.infinityOrdinal_lt
  have given : read source (source.signBit negative + ordinal : ℕ) =
      .finite (source.dyadicAt negative ordinal) := by
    rw [read_signBit_add negative finite, if_neg positive.ne']
  have nonzero := source.dyadicAt_significand negative positive
  have sign := source.isNegative_signBit_add negative small
  have value := source.realOf_signBit_add negative finite
  have magnitude : |source.realOf (source.signBit negative + ordinal : ℕ)| =
      source.magnitudeAt ordinal := by
    rw [value, abs_signed, abs_of_nonneg (source.magnitudeAt_nonneg ordinal)]
  -- Into every format the number is rounded as its magnitude.
  have toFormat (format : Format) (mode : Mode) (precision : ℕ) :=
    toPattern_finite format mode nonzero (held _ given) precision
  have read := ofPattern_of_held held
  rw [given] at read
  refine ⟨read, .finite nonzero sign.symm value.symm, fun precision => ?_,
    fun precision => ⟨_, toFormat target mode precision, ?_⟩, ?_⟩
  · rw [toFormat source mode precision]
    exact congrArg Except.ok (source.roundReal_magnitudeAt mode negative positive finite)
  · refine .finite (source.isFinite_signBit_add negative finite) ?_
    rw [sign, magnitude]
    exact target.roundReal_isRounding mode negative (source.magnitudeAt_pos positive)
  · intro exponents precision
    obtain ⟨number, finite', same⟩ :=
      (Format.widens_of_le exponents precision).exists_magnitudeAt finite
    have positive' : 0 < number := by
      refine Nat.pos_of_ne_zero ?_
      rintro rfl
      rw [target.magnitudeAt_zero] at same
      exact (source.magnitudeAt_pos positive).ne same
    refine ⟨target.signBit negative + number, fun digits => ?_, ?_, fun held' => ?_⟩
    · rw [toFormat target mode digits]
      refine congrArg Except.ok ?_
      show target.roundReal mode negative (source.magnitudeAt ordinal) = _
      rw [← same, target.roundReal_magnitudeAt mode negative positive' finite']
    · rw [target.valueOf_signBit_add negative finite'.le,
        source.valueOf_signBit_add negative finite.le, target.extendedAt_of_lt finite',
        source.extendedAt_of_lt finite, same]
    · have given' : Number.read target (target.signBit negative + number : ℕ) =
          .finite (target.dyadicAt negative number) := by
        rw [read_signBit_add negative finite', if_neg positive'.ne']
      have nonzero' := target.dyadicAt_significand negative positive'
      have read' := ofPattern_of_held held'
      rw [given'] at read'
      refine ⟨_, read', fun back digits => ?_⟩
      rw [toPattern_finite source back nonzero' (held' _ given') digits]
      refine congrArg Except.ok ?_
      show source.roundReal back negative (target.magnitudeAt number) = _
      rw [same, source.roundReal_magnitudeAt back negative positive finite]

/-- **Patterns cross to multiprecision numbers and back.** A NaN becomes the quiet one. Every other
pattern is read exactly if its exponents are in range, as they are for formats with few exponent
bits, comes back as it is and is rounded once into any other format. Where an exponent is out of
range the pattern is refused, although its value has few bits. -/
theorem bridges {pattern : ℕ} (fits : pattern < 2 ^ source.totalBits) :
    (source.isNaN pattern = true → ofPattern source pattern = .ok .nan ∧
      ∀ mode sticky precision, toPattern target mode .nan sticky precision =
        .ok ⟨target.quietNaN false, .none⟩) ∧
    (source.isNaN pattern = false → source.IsHeld pattern → ∀ mode, ∃ number,
      Bridges source target mode pattern number) ∧
    (¬ source.IsHeld pattern → ofPattern source pattern = .error .resultInexact) ∧
    (source.emax + source.fractionBits < exponentLimit → source.IsHeld pattern) := by
  refine ⟨fun nan => ⟨?_, fun _ _ _ => rfl⟩, fun number held mode => ?_, ofPattern_of_not_held,
    fun ranged => isHeld_of_ranged ranged fits⟩
  · rw [ofPattern, Number.read, if_pos nan]
  · cases Reference.class_of_fits fits with
    | nan isNaN => exact absurd (number.symm.trans isNaN) Bool.false_ne_true
    | infinite negative same =>
      subst same
      exact ⟨_, bridges_infinity source target mode negative⟩
    | zero negative same =>
      subst same
      exact ⟨_, bridges_zero source target mode negative⟩
    | finite negative ordinal positive finite same =>
      subst same
      exact ⟨_, bridges_finite source target mode negative positive finite held⟩

/-- The least magnitude with a sign, which is normal in the wider format. -/
theorem bridges_half :
    0x8001 < 2 ^ Format.half.totalBits ∧ Format.half.isNaN 0x8001 = false ∧
      Format.half.emax + Format.half.fractionBits < exponentLimit ∧ Format.half.IsHeld 0x8001 ∧
      ofPattern .half 0x8001 = .ok (.finite ⟨true, 1, -24⟩) ∧
      toPattern .single .up (.finite ⟨true, 1, -24⟩) false 2 = .ok ⟨0xb3800000, .none⟩ ∧
      ofPattern .single 0xb3800000 = .ok (.finite ⟨true, 8388608, -47⟩) ∧
      toPattern .half .down (.finite ⟨true, 8388608, -47⟩) false 2 = .ok ⟨0x8001, .none⟩ ∧
      ∃ number, Bridges .half .single .up 0x8001 number := by
  have fits : 0x8001 < 2 ^ Format.half.totalBits := by decide
  have number : Format.half.isNaN 0x8001 = false := by decide
  have ranged : Format.half.emax + Format.half.fractionBits < exponentLimit := by decide
  obtain ⟨-, crosses, -, small⟩ := bridges .half .single fits
  have held := small ranged
  exact ⟨fits, number, ranged, held, rfl, rfl, rfl, rfl, crosses number held .up⟩

/-- With forty exponent bits a power of two is refused, which any precision could hold. -/
theorem bridges_refused :
    let wide : Format := ⟨40, 64, by decide, by decide⟩
    0x2800000 < 2 ^ wide.totalBits ∧ wide.isNaN 0x2800000 = false ∧
      read wide 0x2800000 = .finite ⟨false, 2 ^ 23, -549755813905⟩ ∧
      ofPattern wide 0x2800000 = .error .resultInexact := by
  exact ⟨by decide, by decide, rfl, rfl⟩

end Number

end LibmAudit
