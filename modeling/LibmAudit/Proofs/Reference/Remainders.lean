/-
**Reference remainders are exact.**

What a finite dividend leaves after a multiple of the divisor is a value of the format, however far
apart the two are, so that the routines that divide with remainder give it in every mode.

* `quotientTowardZero`: the quotient cut toward zero. `Format.IsFmod`: what it leaves.
* `Format.IsRemainder`: what the quotient to nearest even leaves. `KeepsLastBits`: its last bits.
* `Reference.remainders_exact`: the three routines.
-/

import LibmAudit.Proofs.Reference.Operations

namespace LibmAudit

attribute [local instance (high)] instPowNat

variable {format : Format}

/-! ## What remainders are -/

/-- The quotient cut toward zero. -/
noncomputable def quotientTowardZero (y : ℝ) : ℤ := if y < 0 then ⌈y⌉ else ⌊y⌋

/-- The pattern is what is left of a value after a multiple of another one, exactly. A zero has the
sign of the first value. -/
structure Format.Leaves (format : Format) (first second : ℕ) (n : ℤ) (rest : ℕ) : Prop where
  fits : rest < 2 ^ format.totalBits
  isFinite : format.isFinite rest = true
  exact : format.realOf rest = format.realOf first - n * format.realOf second
  zeroSign : format.isZero rest = true → format.isNegative rest = format.isNegative first

/-- The remainder of the quotient cut toward zero. -/
structure Format.IsFmod (format : Format) (first second rest : ℕ) : Prop where
  leaves : format.Leaves first second
    (quotientTowardZero (format.realOf first / format.realOf second)) rest
  small : |format.realOf rest| < |format.realOf second|
  sign : format.isNegative rest = format.isNegative first

/-- The remainder of the quotient to nearest even. -/
structure Format.IsRemainder (format : Format) (first second rest : ℕ) (n : ℤ) : Prop where
  nearest : IsNearestEven (format.realOf first / format.realOf second) n
  leaves : format.Leaves first second n rest
  small : |format.realOf rest| ≤ |format.realOf second| / 2

/-- The last bits of the magnitude of an integer, with its sign unless they are zero. -/
structure KeepsLastBits (n quotient : ℤ) : Prop where
  size : |quotient| = |n| % 2 ^ 63
  sign : quotient = 0 ∨ quotient.sign = n.sign

theorem keepsLastBits_signed (negative : Bool) (quotient : ℕ) :
    KeepsLastBits (signed negative (quotient : ℤ))
      (signed negative ((quotient % 2 ^ 63 : ℕ) : ℤ)) := by
  have size (magnitude : ℕ) : |signed negative (magnitude : ℤ)| = magnitude := by
    rw [Int.abs_eq_natAbs, natAbs_signed]
  constructor
  · rw [size, size]
    exact_mod_cast rfl
  · rcases Nat.eq_zero_or_pos (quotient % 2 ^ 63) with none | some
    · left
      rw [none]
      exact signed_zero negative
    · right
      have whole := some.trans_le (Nat.mod_le _ _)
      have left : ((quotient % 2 ^ 63 : ℕ) : ℤ).sign = 1 := Int.sign_eq_one_of_pos (by omega)
      have right : (quotient : ℤ).sign = 1 := Int.sign_eq_one_of_pos (by omega)
      cases negative
      · exact left.trans right.symm
      · exact (Int.sign_neg _).trans ((congrArg Neg.neg (left.trans right.symm)).trans
          (Int.sign_neg _).symm)

/-- Cutting toward zero cuts the magnitude. -/
theorem quotientTowardZero_signed (negative : Bool) {x : ℝ} (nonneg : 0 ≤ x) :
    quotientTowardZero (signed negative x) = signed negative (⌊x⌋₊ : ℤ) := by
  have floor : ⌊x⌋ = (⌊x⌋₊ : ℤ) := (Int.natCast_floor_eq_floor nonneg).symm
  unfold quotientTowardZero
  cases negative
  · show (if x < 0 then ⌈x⌉ else ⌊x⌋) = _
    rw [if_neg nonneg.not_gt]
    exact floor
  · show (if -x < 0 then ⌈-x⌉ else ⌊-x⌋) = -(⌊x⌋₊ : ℤ)
    rcases nonneg.eq_or_lt with rfl | positive
    · simp
    · rw [if_pos (neg_neg_of_pos positive), Int.ceil_neg, floor]

/-! ## Divisions of units -/

namespace Format

variable {negative negative' : Bool} {dividend divisor pattern : ℕ} {rest n : ℤ}

/-- A multiple of the units that holds a magnitude has a pattern. -/
theorem Holds.exists_encodesRest (holds : format.Holds rest) (negative : Bool) :
    ∃ pattern, format.EncodesRest negative pattern rest := by
  obtain ⟨ordinal, finite, same⟩ := holds
  exact ⟨_, ordinal, finite, rfl, same⟩

/-- The pattern of a rest of the units is what is left of the values. -/
theorem EncodesRest.leaves (encodes : format.EncodesRest negative pattern rest)
    (finite : dividend < format.infinityOrdinal)
    (exact : signed negative (rest * 2 ^ format.lowestPlace : ℝ) =
      format.realOf (format.signBit negative + dividend : ℕ) - n * format.realOf divisor) :
    format.Leaves (format.signBit negative + dividend) divisor n pattern := by
  have sign := encodes.sign_eq
  refine ⟨?_, encodes.isFinite, encodes.realOf.trans exact, fun zero => ?_⟩
  · obtain ⟨ordinal, inside, rfl, -⟩ := encodes
    exact format.signBit_add_lt _ (inside.trans format.infinityOrdinal_lt)
  · -- A zero pattern encodes a zero rest, which is not negative.
    rw [← realOf_eq_zero_iff, encodes.realOf, ← abs_eq_zero, abs_signed, abs_eq_zero,
      mul_eq_zero, or_iff_left (by positivity), Int.cast_eq_zero] at zero
    rw [sign, zero, format.isNegative_signBit_add _ (finite.trans format.infinityOrdinal_lt)]
    exact Bool.xor_false negative

theorem abs_realOf_signBit_add (negative : Bool) {ordinal : ℕ}
    (finite : ordinal < format.infinityOrdinal) :
    |format.realOf (format.signBit negative + ordinal : ℕ)| =
      format.unitsAt ordinal * 2 ^ format.lowestPlace := by
  rw [format.realOf_signBit_add _ finite, abs_signed,
    abs_of_nonneg (format.magnitudeAt_nonneg _), format.magnitudeAt_eq_unitsAt]

theorem EncodesRest.abs_realOf (encodes : format.EncodesRest negative pattern rest) :
    |format.realOf pattern| = rest.natAbs * 2 ^ format.lowestPlace := by
  rw [encodes.realOf, abs_signed, abs_mul,
    abs_of_pos (show (0 : ℝ) < 2 ^ format.lowestPlace by positivity), Nat.cast_natAbs,
    Int.cast_abs]

/-- What a division of the units that is cut toward zero leaves. -/
theorem EncodesRest.isFmod (finite : dividend < format.infinityOrdinal)
    (finite' : divisor < format.infinityOrdinal) (positive : 0 < divisor)
    (encodes : format.EncodesRest negative pattern
      (format.unitsAt dividend % format.unitsAt divisor : ℕ)) :
    format.IsFmod (format.signBit negative + dividend) (format.signBit negative' + divisor)
      pattern := by
  have unit : (0 : ℝ) < 2 ^ format.lowestPlace := by positivity
  have units := format.unitsAt_pos_iff.mpr positive
  have first := format.realOf_signBit_add negative finite
  have second := format.realOf_signBit_add negative' finite'
  rw [format.magnitudeAt_eq_unitsAt] at first second
  have ratio : format.realOf (format.signBit negative + dividend : ℕ) /
      format.realOf (format.signBit negative' + divisor : ℕ) =
        signed (negative != negative') ((format.unitsAt dividend : ℝ) / format.unitsAt divisor) := by
    rw [first, second, ← mul_div_mul_right (format.unitsAt dividend : ℝ) _ unit.ne']
    cases negative <;> cases negative' <;> simp [signed, div_neg, neg_div]
  have quotient := quotientTowardZero_signed (negative != negative')
    (show (0 : ℝ) ≤ format.unitsAt dividend / format.unitsAt divisor by positivity)
  rw [Nat.floor_div_eq_div] at quotient
  constructor
  · refine encodes.leaves finite ?_
    rw [ratio, quotient, first, second]
    exact signed_rest_of_split
      (by exact_mod_cast (Nat.mod_add_div' (format.unitsAt dividend) _).symm) negative negative' _
  · rw [encodes.abs_realOf, abs_realOf_signBit_add _ finite', Int.natAbs_natCast]
    exact mul_lt_mul_of_pos_right (by exact_mod_cast Nat.mod_lt _ units) unit
  · rw [encodes.sign_eq, decide_eq_false (by omega),
      format.isNegative_signBit_add _ (finite.trans format.infinityOrdinal_lt)]
    exact Bool.xor_false negative

/-- What a division of the units to nearest even leaves. -/
theorem EncodesRest.isRemainder {quotient : ℕ} (finite : dividend < format.infinityOrdinal)
    (finite' : divisor < format.infinityOrdinal) (positive : 0 < divisor)
    (encodes : format.EncodesRest negative pattern rest)
    (division : NearestDivision (format.unitsAt dividend) (format.unitsAt divisor) quotient rest) :
    format.IsRemainder (format.signBit negative + dividend) (format.signBit negative' + divisor)
      pattern (signed (negative != negative') (quotient : ℤ)) := by
  have unit : (0 : ℝ) < 2 ^ format.lowestPlace := by positivity
  have units := format.unitsAt_pos_iff.mpr positive
  have first := format.realOf_signBit_add negative finite
  have second := format.realOf_signBit_add negative' finite'
  rw [format.magnitudeAt_eq_unitsAt] at first second
  constructor
  · rw [first, second]
    exact division.isNearestEven units unit negative negative'
  · refine encodes.leaves finite ?_
    rw [first, second]
    exact signed_rest_of_split division.split negative negative' _
  · have near : (2 : ℝ) * rest.natAbs ≤ format.unitsAt divisor := by exact_mod_cast division.near
    rw [encodes.abs_realOf, abs_realOf_signBit_add _ finite', le_div_iff₀ two_pos]
    calc (rest.natAbs : ℝ) * 2 ^ format.lowestPlace * 2
        = 2 * rest.natAbs * 2 ^ format.lowestPlace := by ring
      _ ≤ format.unitsAt divisor * 2 ^ format.lowestPlace :=
        mul_le_mul_of_nonneg_right near unit.le

end Format

/-! ## Routines -/

namespace Reference

variable {negative negative' : Bool} {dividend divisor : ℕ}

/-- The remainder of the quotient cut toward zero. -/
theorem fmod_eq (ranged : format.emax + format.fractionBits < exponentLimit)
    (finite : dividend < format.infinityOrdinal) (finite' : divisor < format.infinityOrdinal)
    (positive : 0 < divisor) (negative negative' : Bool) :
    ∃ pattern, format.EncodesRest negative pattern
        (format.unitsAt dividend % format.unitsAt divisor : ℕ) ∧
      ∀ mode, operation .fmod format mode
        [format.signBit negative + dividend, format.signBit negative' + divisor] =
          .ok (.ofPattern pattern) := by
  have grid : format.OnGrid (format.unitsAt dividend % format.unitsAt divisor) :=
    Format.OnGrid.mod ⟨dividend, rfl⟩ ⟨divisor, rfl⟩
  have small := format.unitsAt_strictMono finite
  have le := Nat.mod_le (format.unitsAt dividend) (format.unitsAt divisor)
  have holds : format.Holds (format.unitsAt dividend % format.unitsAt divisor : ℕ) :=
    Format.OnGrid.holds grid (by omega)
  obtain ⟨pattern, encodes⟩ := holds.exists_encodesRest negative
  refine ⟨pattern, encodes, operation_of_rest ranged ?_ rfl ?_ encodes ?_⟩
  · rw [List.forall_mem_cons, List.forall_mem_singleton]
    exact ⟨format.signBit_add_lt _ (finite.trans format.infinityOrdinal_lt),
      format.signBit_add_lt _ (finite'.trans format.infinityOrdinal_lt)⟩
  · rw [List.forall_mem_cons, List.forall_mem_singleton]
    exact ⟨format.isNaN_signBit_add _ finite, format.isNaN_signBit_add _ finite'⟩
  · show (_ ∧ (Number.read format _).fmod (Number.read format _) = _) ∨
      (_ ∧ ((Number.read format _).fmod (Number.read format _)).HasValue _)
    rw [Number.read_signBit_add negative finite, Number.read_signBit_add negative' finite',
      if_neg positive.ne']
    rcases Nat.eq_zero_or_pos dividend with rfl | nonzero
    · rw [format.unitsAt_zero, Nat.zero_mod, if_pos rfl]
      exact Or.inl ⟨rfl, rfl⟩
    · rw [if_neg nonzero.ne']
      exact Division.outcome_eq format negative
        (by exact_mod_cast Division.truncated_units format negative negative' dividend divisor)

/-- **Reference remainders are exact.** A finite dividend and a finite divisor that is not zero have
exact remainders in the format, whichever way the quotient is rounded, and no mode changes them. The
quotient to nearest even is given by its last bits and its sign. -/
theorem remainders_exact {carrier : Carrier} (stored : format.carrier? = some carrier)
    {first second : ℕ} (fits : first < 2 ^ format.totalBits)
    (fits' : second < 2 ^ format.totalBits) (finite : format.isFinite first = true)
    (finite' : format.isFinite second = true) (nonzero : format.isZero second = false) :
    ∃ (cut rest : ℕ) (n quotient : ℤ), format.IsFmod first second cut ∧
      format.IsRemainder first second rest n ∧ KeepsLastBits n quotient ∧ ∀ mode,
        LibraryKind.reference.call .fmod format mode [.float first, .float second] =
          .ok ⟨[.float cut], .none⟩ ∧
        LibraryKind.reference.call .remainder format mode [.float first, .float second] =
          .ok ⟨[.float rest], .none⟩ ∧
        LibraryKind.reference.call .remquo format mode [.float first, .float second] =
          .ok ⟨[.float rest, .int quotient], .none⟩ := by
  obtain rfl := Format.format_of_carrier? stored
  have ranged := carrier.ranged
  generalize carrier.format = format at *
  obtain ⟨negative, dividend, inside, -, rfl⟩ := Format.exists_signBit_add fits finite
  obtain ⟨negative', divisor, inside', number, rfl⟩ := Format.exists_signBit_add fits' finite'
  have positive : 0 < divisor := by
    rw [Nat.pos_iff_ne_zero, ← number, Ne, ← format.isZero_iff, nonzero]
    exact Bool.false_ne_true
  obtain ⟨cut, encodes, called⟩ := fmod_eq ranged inside inside' positive negative negative'
  obtain ⟨rest, -, division⟩ := Division.nearest_units format negative negative' dividend positive
  obtain ⟨pattern, encodes'⟩ := (division.holds inside' positive).exists_encodesRest negative
  exact ⟨cut, pattern, _, _, encodes.isFmod inside inside' positive,
    encodes'.isRemainder inside inside' positive division, keepsLastBits_signed _ _,
    fun mode => ⟨called mode,
      remainder_eq ranged negative negative' inside inside' positive division encodes' mode,
      remquo_eq ranged negative negative' inside inside' positive division encodes'⟩⟩

/-- The lowest single value by eleven times the least one. The quotient has far more than its last
bits, and its two roundings leave values on both sides of zero. -/
theorem remainders_exact_single :
    Format.single.carrier? = some .single ∧ 0xff7fffff < 2 ^ Format.single.totalBits ∧
      11 < 2 ^ Format.single.totalBits ∧ Format.single.isFinite (0xff7fffff : ℕ) = true ∧
      Format.single.isFinite (11 : ℕ) = true ∧ Format.single.isZero (11 : ℕ) = false ∧
      Format.single.IsFmod 0xff7fffff 11 0x8000000a ∧
      ∃ n, Format.single.IsRemainder 0xff7fffff 11 1 n ∧
        KeepsLastBits n (-3353953467947191203) := by
  have stored : Format.single.carrier? = some .single := by decide
  have fits : 0xff7fffff < 2 ^ Format.single.totalBits := by decide
  have fits' : 11 < 2 ^ Format.single.totalBits := by decide
  have finite : Format.single.isFinite (0xff7fffff : ℕ) = true := by decide
  have finite' : Format.single.isFinite (11 : ℕ) = true := by decide
  have nonzero : Format.single.isZero (11 : ℕ) = false := by decide
  obtain ⟨cut, rest, n, quotient, isFmod, isRemainder, keeps, given⟩ :=
    remainders_exact stored fits fits' finite finite' nonzero
  have first : LibraryKind.reference.call .fmod .single .up [.float 0xff7fffff, .float 11] =
      .ok ⟨[.float 0x8000000a], .none⟩ := by rfl
  have second : LibraryKind.reference.call .remquo .single .up [.float 0xff7fffff, .float 11] =
      .ok ⟨[.float 1, .int (-3353953467947191203)], .none⟩ := by rfl
  rw [(given .up).1] at first
  rw [(given .up).2.2] at second
  simp only [Except.ok.injEq, Response.mk.injEq, List.cons.injEq, SlotValue.float.injEq,
    SlotValue.int.injEq, and_true] at first second
  obtain rfl := first
  obtain ⟨rfl, rfl⟩ := second
  exact ⟨stored, fits, fits', finite, finite', nonzero, isFmod, n, isRemainder, keeps⟩

end Reference

end LibmAudit
