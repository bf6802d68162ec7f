/-
**The functions that take numbers apart fit together.**

Each of them moves the significand of a finite value to another exponent. Where that stays within
the range of the format it is exact, and scaling moves it back.

* `Reference.leadingAt`: the exponent of the leading digit of a magnitude.
* `Reference.exists_moved`, `ldexp_moved`: a value at another exponent, and the way back.
* `Reference.IsFrexp`, `IsLogb`, `IsModf`: what the functions have to give.
* `Reference.decomposition`: they give it, and raise no exception.
-/

import LibmAudit.Proofs.Reference.Integral
import LibmAudit.Proofs.Reference.Scaling

namespace LibmAudit.Reference

attribute [local instance (high)] instPowNat

variable {format : Format}

/-! ## Other exponents -/

/-- The exponent of the leading digit of the magnitude with a number. -/
def leadingAt (format : Format) (ordinal : ℕ) : ℤ :=
  Format.leadingExponent (format.significandAt ordinal) (format.placeAt ordinal)

section

variable (mode : Mode) (negative : Bool) {ordinal : ℕ} (positive : 0 < ordinal)
  (finite : ordinal < format.infinityOrdinal) {power : ℤ}

/-- A value moved to another exponent is a value when it stays within the range. -/
theorem exists_moved (low : format.lowestPlace ≤ format.placeAt ordinal + power)
    (high : format.magnitudeAt ordinal * 2 ^ power < 2 ^ (format.emax + 1)) :
    ∃ number < format.infinityOrdinal,
      (format.roundExact .nearestEven negative (format.significandAt ordinal)
        (format.placeAt ordinal + power)).pattern = format.signBit negative + number ∧
      format.magnitudeAt number = format.magnitudeAt ordinal * 2 ^ power := by
  rw [← format.significandAt_mul_two_pow] at high ⊢
  exact Format.roundExact_signBit_add negative (format.significandAt_lt ordinal).le low high

include positive

theorem leadingAt_bounds : (2 : ℝ) ^ leadingAt format ordinal ≤ format.magnitudeAt ordinal ∧
    format.magnitudeAt ordinal < 2 ^ (leadingAt format ordinal + 1) := by
  have given : StandsFor (format.significandAt ordinal) (format.placeAt ordinal) false
      (format.magnitudeAt ordinal) := rfl
  exact given.bounds (format.significandAt_ne_zero positive)

/-- Moved so that the leading digit has a given exponent. -/
theorem moved_bounds (exponent : ℤ) :
    (2 : ℝ) ^ exponent ≤ format.magnitudeAt ordinal * 2 ^ (exponent - leadingAt format ordinal) ∧
      format.magnitudeAt ordinal * 2 ^ (exponent - leadingAt format ordinal) <
        2 ^ (exponent + 1) := by
  obtain ⟨least, greatest⟩ := @leadingAt_bounds format _ positive
  have unit : (0 : ℝ) < 2 ^ (exponent - leadingAt format ordinal) := by positivity
  have low : (2 : ℝ) ^ exponent =
      2 ^ leadingAt format ordinal * 2 ^ (exponent - leadingAt format ordinal) := by
    rw [← zpow_add₀ two_ne_zero, add_sub_cancel]
  have high : (2 : ℝ) ^ (exponent + 1) =
      2 ^ (leadingAt format ordinal + 1) * 2 ^ (exponent - leadingAt format ordinal) := by
    rw [← zpow_add₀ two_ne_zero]
    congr 1
    ring
  rw [low, high]
  exact ⟨mul_le_mul_of_nonneg_right least unit.le, mul_lt_mul_of_pos_right greatest unit⟩

/-- The leading digit of a value can be moved to minus one or zero. -/
theorem exists_moved_leading (room : format.fractionBits < format.emax) {exponent place : ℤ}
    (above : -1 ≤ exponent) (below : exponent ≤ 0)
    (moved : place = format.placeAt ordinal + (exponent - leadingAt format ordinal)) :
    ∃ number, 0 < number ∧ number < format.infinityOrdinal ∧
      (format.roundExact .nearestEven negative (format.significandAt ordinal) place).pattern =
        format.signBit negative + number ∧
      format.magnitudeAt number =
        format.magnitudeAt ordinal * 2 ^ (exponent - leadingAt format ordinal) := by
  have range := format.one_le_emax
  have width := format.fractionBits_add_one
  have some := format.fractionBits_pos
  have short := bitLength_le_iff.mpr (format.significandAt_lt ordinal)
  have low : format.lowestPlace ≤
      format.placeAt ordinal + (exponent - leadingAt format ordinal) := by
    unfold leadingAt Format.leadingExponent Format.lowestPlace Format.emin
    omega
  obtain ⟨least, greatest⟩ := @moved_bounds format _ positive exponent
  have high : (2 : ℝ) ^ (exponent + 1) ≤ 2 ^ (format.emax + 1) :=
    zpow_le_zpow_right₀ one_le_two (by omega)
  obtain ⟨number, finite, pattern, magnitude⟩ :=
    exists_moved negative low (greatest.trans_le high)
  rw [moved]
  refine ⟨number, Nat.pos_of_ne_zero ?_, finite, pattern, magnitude⟩
  rintro rfl
  rw [format.magnitudeAt_zero] at magnitude
  have unit : (0 : ℝ) < 2 ^ exponent := by positivity
  linarith

include finite

theorem leadingAt_mem :
    format.lowestPlace ≤ leadingAt format ordinal ∧ leadingAt format ordinal ≤ format.emax := by
  have given : StandsFor (format.significandAt ordinal) (format.placeAt ordinal) false
      (format.magnitudeAt ordinal) := rfl
  have log : Int.log 2 (format.magnitudeAt ordinal) = leadingAt format ordinal :=
    given.log_eq (format.significandAt_ne_zero positive)
  rw [← log]
  exact ⟨(format.lowestPlace_le_placeAt ordinal).trans (format.placeAt_le_log positive),
    format.log_magnitudeAt_le positive finite⟩

/-- Scaling moves a value back to where it was. -/
theorem ldexp_moved (ranged : format.emax + format.fractionBits < exponentLimit) {number : ℕ}
    (positive' : 0 < number) (finite' : number < format.infinityOrdinal)
    (moved : format.magnitudeAt number = format.magnitudeAt ordinal * 2 ^ (-power))
    (low : format.lowestPlace ≤ power) :
    ldexp format mode (format.signBit negative + number) power =
      .ok ⟨[.float (format.signBit negative + ordinal)], .none⟩ := by
  have fits := format.signBit_add_lt negative (finite'.trans format.infinityOrdinal_lt)
  have range := format.one_le_emax
  have limit : -scaleLimit format ≤ power := by
    have width := format.fractionBits_add_one
    unfold Format.lowestPlace Format.emin at low
    unfold scaleLimit Format.floorExponent Format.emin
    omega
  rw [ldexp_eq positive' finite' (not_isBeyondStorage fits ranged limit), moved, mul_assoc,
    ← zpow_add₀ two_ne_zero, neg_add_cancel, zpow_zero, mul_one,
    format.roundReal_magnitudeAt mode negative positive finite]
  rfl

end

/-! ## Exponents as values -/

/-- Machine types have the exponents of their values as values. -/
theorem exponents_lt_two_pow_precision (carrier : Carrier) :
    carrier.format.emax < 2 ^ carrier.format.precision ∧
      -carrier.format.lowestPlace < 2 ^ carrier.format.precision := by
  cases carrier <;> decide

/-- An integer with as many digits as the precision is a value, whatever its sign. -/
theorem roundInteger_of_short (room : format.fractionBits < format.emax) {n : ℤ}
    (short : n.natAbs < 2 ^ format.precision) :
    format.isFinite (format.roundInteger .nearestEven n).pattern = true ∧
      format.realOf (format.roundInteger .nearestEven n).pattern = n := by
  have width := format.fractionBits_add_one
  have small : (n.natAbs * 2 ^ (0 : ℤ) : ℝ) < 2 ^ (format.emax + 1) := by
    rw [zpow_zero, mul_one]
    calc (n.natAbs : ℝ) < (2 ^ format.precision : ℕ) := by exact_mod_cast short
      _ = 2 ^ (format.precision : ℤ) := by rw [zpow_natCast, Nat.cast_pow, Nat.cast_ofNat]
      _ ≤ 2 ^ (format.emax + 1) := zpow_le_zpow_right₀ one_le_two (by omega)
  obtain ⟨number, finite, pattern, magnitude⟩ := Format.roundExact_signBit_add (decide (n < 0))
    short.le (Native.lowestPlace_lt format).le small
  rw [zpow_zero, mul_one, Nat.cast_natAbs, Int.cast_abs] at magnitude
  rw [Format.roundInteger, pattern, format.realOf_signBit_add _ finite, magnitude]
  refine ⟨format.isFinite_signBit_add _ finite, ?_⟩
  have sign : decide (n < 0) = decide ((n : ℝ) < 0) := by simp only [Int.cast_lt_zero]
  rw [sign, signed_abs]

/-! ## What the functions have to give -/

/-- A significand from one half to one and its exponent, which are put together again. -/
structure IsFrexp (format : Format) (mode : Mode) (pattern fraction : ℕ) (exponent : ℤ) :
    Prop where
  frexp : LibraryKind.reference.call .frexp format mode [.float pattern] =
    .ok ⟨[.float fraction, .int exponent], .none⟩
  isFinite : format.isFinite fraction = true
  half_le : 1 / 2 ≤ |format.realOf fraction|
  lt_one : |format.realOf fraction| < 1
  joined : LibraryKind.reference.call .ldexp format mode [.float fraction, .int exponent] =
    .ok ⟨[.float pattern], .none⟩

/-- The exponent of the leading digit, as an integer and as a value, and the significand from one to
two, which are put together again. -/
structure IsLogb (format : Format) (mode : Mode) (pattern normalized : ℕ) (exponent : ℤ)
    (logarithm : ℕ) : Prop where
  ilogb : LibraryKind.reference.call .ilogb format mode [.float pattern] =
    .ok ⟨[.int exponent], .none⟩
  logb : LibraryKind.reference.call .logb format mode [.float pattern] =
    .ok ⟨[.float logarithm], .none⟩
  isInteger : format.isFinite logarithm = true ∧ format.realOf logarithm = exponent
  significand : LibraryKind.reference.call .significand format mode [.float pattern] =
    .ok ⟨[.float normalized], .none⟩
  isFinite : format.isFinite normalized = true
  joined : LibraryKind.reference.call .ldexp format mode [.float normalized, .int exponent] =
    .ok ⟨[.float pattern], .none⟩

/-- The integer toward zero and what is left of the value, both with its sign. -/
structure IsModf (format : Format) (mode : Mode) (pattern rest whole : ℕ) : Prop where
  modf : LibraryKind.reference.call .modf format mode [.float pattern] =
    .ok ⟨[.float rest, .float whole], .none⟩
  trunc : LibraryKind.reference.call .trunc format mode [.float pattern] =
    .ok ⟨[.float whole], .none⟩
  isInteger : IsIntegerRounding format .towardZero pattern whole
  isFinite : format.isFinite rest = true
  sign : format.isNegative rest = format.isNegative pattern
  lt_one : |format.realOf rest| < 1
  sum : format.realOf rest + format.realOf whole = format.realOf pattern

section

variable (mode : Mode) (negative : Bool) {ordinal : ℕ} (positive : 0 < ordinal)
  (finite : ordinal < format.infinityOrdinal)

include positive finite

theorem exists_isFrexp (room : format.fractionBits < format.emax)
    (ranged : format.emax + format.fractionBits < exponentLimit) :
    ∃ fraction, IsFrexp format mode (format.signBit negative + ordinal) fraction
        (leadingAt format ordinal + 1) ∧
      format.realOf fraction =
        signed negative (format.magnitudeAt ordinal * 2 ^ (-1 - leadingAt format ordinal)) := by
  obtain ⟨number, positive', finite', pattern, magnitude⟩ :=
    @exists_moved_leading format negative _ positive room (-1) (format.placeAt ordinal -
      (leadingAt format ordinal + 1)) le_rfl (by decide) (by ring)
  obtain ⟨least, greatest⟩ := @moved_bounds format _ positive (-1)
  have value := format.realOf_signBit_add negative finite'
  have nonneg := format.magnitudeAt_nonneg number
  have low := (leadingAt_mem positive finite).1
  rw [← magnitude] at least greatest
  refine ⟨format.signBit negative + number, ⟨?_, ?_, ?_, ?_, ?_⟩, ?_⟩
  · show Except.ok (frexp format (format.signBit negative + ordinal)) = _
    rw [frexp, parts?_signBit_add negative positive finite, ← pattern]
    rfl
  · exact format.isFinite_signBit_add negative finite'
  · rw [value, abs_signed, abs_of_nonneg nonneg]
    simpa using least
  · rw [value, abs_signed, abs_of_nonneg nonneg]
    simpa using greatest
  · refine ldexp_moved mode negative positive finite ranged positive' finite' ?_ (by omega)
    rw [magnitude]
    congr 2
    ring
  · rw [value, magnitude]

theorem exists_isLogb (room : format.fractionBits < format.emax)
    (ranged : format.emax + format.fractionBits < exponentLimit)
    (short : format.emax < 2 ^ format.precision ∧ -format.lowestPlace < 2 ^ format.precision) :
    ∃ normalized logarithm, IsLogb format mode (format.signBit negative + ordinal) normalized
        (leadingAt format ordinal) logarithm ∧
      format.realOf normalized =
        signed negative (format.magnitudeAt ordinal * 2 ^ (-leadingAt format ordinal)) := by
  obtain ⟨number, positive', finite', pattern, magnitude⟩ :=
    @exists_moved_leading format negative _ positive room 0 (format.placeAt ordinal -
      leadingAt format ordinal) (by decide) le_rfl (by ring)
  obtain ⟨low, high⟩ := leadingAt_mem positive finite
  have parts := parts?_signBit_add negative positive finite
  have digits : (leadingAt format ordinal).natAbs < 2 ^ format.precision := by
    have cast : ((2 ^ format.precision : ℕ) : ℤ) = 2 ^ format.precision := by norm_cast
    omega
  rw [zero_sub] at magnitude
  refine ⟨format.signBit negative + number, _, ⟨?_, ?_, roundInteger_of_short room digits, ?_, ?_,
    ?_⟩, ?_⟩
  · show Except.ok (ilogb format (format.signBit negative + ordinal)) = _
    rw [ilogb, parts]
    rfl
  · show Except.ok (logb format (format.signBit negative + ordinal)) = _
    rw [logb, parts]
    rfl
  · show Except.ok (significand format (format.signBit negative + ordinal)) = _
    rw [significand, parts, ← pattern]
    rfl
  · exact format.isFinite_signBit_add negative finite'
  · exact ldexp_moved mode negative positive finite ranged positive' finite' magnitude low
  · rw [format.realOf_signBit_add negative finite', magnitude]

/-- A value is the sum of two with its sign, one of them whole and the other below one. -/
theorem exists_modf : ∃ rest < format.infinityOrdinal, ∃ whole < format.infinityOrdinal,
    modf format (format.signBit negative + ordinal) =
      ⟨[.float (format.signBit negative + rest), .float (format.signBit negative + whole)], .none⟩ ∧
    (integral format .towardZero (format.signBit negative + ordinal)).1 =
      format.signBit negative + whole ∧
    format.magnitudeAt rest < 1 ∧
    format.magnitudeAt rest + format.magnitudeAt whole = format.magnitudeAt ordinal := by
  have parts := parts?_signBit_add negative positive finite
  have number := format.isNaN_signBit_add negative finite
  have sign := format.isNegative_signBit_add negative (finite.trans format.infinityOrdinal_lt)
  by_cases fraction : format.placeAt ordinal < 0
  · obtain ⟨whole, finite', pattern, integer⟩ := Native.whole_signBit_add negative finite fraction
    obtain ⟨rest, finite'', pattern', left⟩ := Native.rest_signBit_add negative finite fraction
    have cut : (integral format .towardZero (format.signBit negative + ordinal)).1 =
        format.signBit negative + whole := by
      rw [Native.integral_of_fraction negative positive finite fraction, Mode.roundsAway,
        Bool.and_false, if_neg Bool.false_ne_true, pattern]
    refine ⟨rest, finite'', whole, finite', ?_, cut, ?_, ?_⟩
    · unfold modf
      dsimp only
      rw [number, if_neg Bool.false_ne_true, cut, sign, parts, ← pattern']
      dsimp only
      rw [if_neg (not_le.mpr fraction)]
      rfl
    · have below : (Native.restAt format ordinal : ℝ) < 2 ^ Native.places format ordinal := by
        exact_mod_cast Nat.mod_lt _ (Nat.two_pow_pos _)
      have unit : (0 : ℝ) < 2 ^ format.placeAt ordinal := by positivity
      rw [left, ← Native.two_pow_places fraction, mul_comm]
      exact mul_lt_mul_of_pos_left below unit
    · rw [left, integer, Native.wholeAt_add_restAt fraction, add_comm]
  · rw [not_lt] at fraction
    have kept : (integral format .towardZero (format.signBit negative + ordinal)).1 =
        format.signBit negative + ordinal := by
      rw [integral, parts]
      dsimp only
      rw [if_pos fraction]
    refine ⟨0, format.infinityOrdinal_pos, ordinal, finite, ?_, kept, ?_, ?_⟩
    · unfold modf
      dsimp only
      rw [number, if_neg Bool.false_ne_true, kept, sign, parts]
      dsimp only
      rw [if_pos fraction]
      rfl
    · rw [format.magnitudeAt_zero]
      exact one_pos
    · rw [format.magnitudeAt_zero, zero_add]

theorem exists_isModf (room : format.fractionBits < format.emax) :
    ∃ rest whole, IsModf format mode (format.signBit negative + ordinal) rest whole := by
  obtain ⟨rest, finite', whole, finite'', taken, cut, below, sum⟩ :=
    exists_modf negative positive finite
  have small := finite.trans format.infinityOrdinal_lt
  have value := format.realOf_signBit_add negative finite'
  refine ⟨_, _, ⟨congrArg Except.ok taken, ?_, ?_, format.isFinite_signBit_add negative finite', ?_,
    ?_, ?_⟩⟩
  · exact congrArg (fun pattern => Except.ok (Response.ofPattern pattern)) cut
  · rw [← cut]
    exact (integral_isIntegerRounding room .towardZero (format.signBit_add_lt negative small)).1
  · rw [format.isNegative_signBit_add negative (finite'.trans format.infinityOrdinal_lt),
      format.isNegative_signBit_add negative small]
  · rwa [value, abs_signed, abs_of_nonneg (format.magnitudeAt_nonneg rest)]
  · rw [value, format.realOf_signBit_add negative finite'',
      format.realOf_signBit_add negative finite, signed_add, sum]

end

/-- **The functions that take numbers apart fit together.** For a finite value that is no zero, in
every mode, the significand from one half to one is put together again with its exponent, and so is
the one from one to two, which is twice the first; its exponent is one less and a value of the
format. The value is the sum of its integer part and of what is left. No exception is raised. -/
theorem decomposition {carrier : Carrier} (stored : format.carrier? = some carrier) {pattern : ℕ}
    (fits : pattern < 2 ^ format.totalBits) (finite : format.isFinite pattern = true)
    (nonzero : format.isZero pattern = false) (mode : Mode) :
    (∃ fraction exponent normalized logarithm,
      IsFrexp format mode pattern fraction exponent ∧
      IsLogb format mode pattern normalized (exponent - 1) logarithm ∧
      format.realOf normalized = 2 * format.realOf fraction) ∧
    ∃ rest whole, IsModf format mode pattern rest whole := by
  obtain rfl := Format.format_of_carrier? stored
  have ranged := carrier.ranged
  have room := fractionBits_lt_emax carrier
  have short := exponents_lt_two_pow_precision carrier
  generalize carrier.format = format at *
  obtain ⟨negative, ordinal, inside, magnitude, rfl⟩ := format.exists_signBit_add fits finite
  have positive : 0 < ordinal := by
    rw [Bool.eq_false_iff, Ne, format.isZero_iff, magnitude] at nonzero
    exact Nat.pos_of_ne_zero nonzero
  obtain ⟨fraction, isFrexp, value⟩ := exists_isFrexp mode negative positive inside room ranged
  obtain ⟨normalized, logarithm, isLogb, value'⟩ :=
    exists_isLogb mode negative positive inside room ranged short
  refine ⟨⟨fraction, leadingAt format ordinal + 1, normalized, logarithm, isFrexp, ?_, ?_⟩,
    exists_isModf mode negative positive inside room⟩
  · rwa [add_sub_cancel_right]
  · have twice : (2 : ℝ) ^ (-leadingAt format ordinal) =
        2 * 2 ^ (-1 - leadingAt format ordinal) := by
      rw [← zpow_one_add₀ two_ne_zero]
      congr 1
      ring
    rw [value, value', twice]
    cases negative <;> simp only [signed, if_true, Bool.false_eq_true, if_false] <;> ring

/-- Three times the least magnitude, which is subnormal, is minus three quarters at another
exponent, and nothing of it is whole. -/
theorem decomposition_half :
    Format.half.carrier? = some .half ∧ 0x8003 < 2 ^ Format.half.totalBits ∧
      Format.half.isFinite 0x8003 = true ∧ Format.half.isZero 0x8003 = false ∧
      LibraryKind.reference.call .frexp .half .up [.float 0x8003] =
        .ok ⟨[.float 0xba00, .int (-22)], .none⟩ ∧
      LibraryKind.reference.call .logb .half .up [.float 0x8003] = .ok ⟨[.float 0xcdc0], .none⟩ ∧
      LibraryKind.reference.call .modf .half .up [.float 0x8003] =
        .ok ⟨[.float 0x8003, .float 0x8000], .none⟩ ∧
      (∃ fraction exponent normalized logarithm,
        IsFrexp .half .up 0x8003 fraction exponent ∧
        IsLogb .half .up 0x8003 normalized (exponent - 1) logarithm ∧
        Format.half.realOf normalized = 2 * Format.half.realOf fraction) ∧
      ∃ rest whole, IsModf .half .up 0x8003 rest whole := by
  have stored : Format.half.carrier? = some .half := by decide
  have fits : 0x8003 < 2 ^ Format.half.totalBits := by decide
  have finite : Format.half.isFinite 0x8003 = true := by decide
  have nonzero : Format.half.isZero 0x8003 = false := by decide
  have taken := decomposition stored fits finite nonzero .up
  exact ⟨stored, fits, finite, nonzero, rfl, rfl, rfl, taken⟩

end LibmAudit.Reference
