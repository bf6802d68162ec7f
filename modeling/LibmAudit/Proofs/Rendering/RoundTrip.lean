/-
**Rendering and decoding are inverse.**

* `readExponent_toDigits`: an exponent is read back.
* `Format.writtenExponent_lt`: exponents of formats up to a width have few digits.
* `Format.readHex_partsOf`: the digits of a finite pattern write its magnitude.
* `Format.decodeHex_partsOf`: they are decoded to the pattern.
* `Format.decode_render`: every pattern is decoded from its text, up to the payload of a NaN.
-/

import LibmAudit.Proofs.Rendering.Layout
import LibmAudit.Proofs.Rounding.Exact

namespace LibmAudit

attribute [local instance (high)] instPowNat

/-! ## Exponents -/

/-- An exponent is read back, unless it has too many digits. -/
theorem readExponent_toDigits {value : ℤ} (short : value.natAbs < 10 ^ digitLimit) :
    readExponent (decide (value < 0)) (Nat.toDigits 10 value.natAbs) = .ok value := by
  have length := (Nat.length_toDigits_le_iff (by decide) (show 0 < digitLimit by decide)).mpr short
  have same : (if value < 0 then -(value.natAbs : ℤ) else value.natAbs) = value := by
    split <;> omega
  simp only [readExponent, if_neg (not_lt.mpr length), Text.readDecimal_toDigits, decide_eq_true_eq,
    same]

namespace Format

variable (format : Format)

theorem two_pow_lt_ten_pow {width : ℕ} (narrow : width ≤ 13999) : 2 ^ width < 10 ^ digitLimit := by
  rw [show digitLimit = 43 * 100 from rfl]
  calc 2 ^ width ≤ 2 ^ (140 * 100) := Nat.pow_le_pow_right (by decide) (by omega)
    _ = (2 ^ 140) ^ 100 := pow_mul 2 140 100
    _ < (10 ^ 43) ^ 100 := Nat.pow_lt_pow_left (by decide) (by decide)
    _ = 10 ^ (43 * 100) := (pow_mul 10 43 100).symm

/-- The exponents of a format that is not too wide have few digits. -/
theorem writtenExponent_lt (narrow : format.exponentBits ≤ 14000) {pattern : ℤ}
    (finite : format.isFinite pattern = true) :
    (format.writtenExponent pattern).natAbs < 10 ^ digitLimit := by
  have mask := format.exponentMask_eq
  have range := format.one_le_emax
  have field : format.exponentField pattern < format.exponentMask := by
    rw [isFinite, bne_iff_ne, Ne, exponentField_eq_mask_iff, not_le] at finite
    rw [exponentField_eq]
    exact Nat.div_lt_of_lt_mul (by rwa [mul_comm])
  have top : format.emax < (2 ^ (format.exponentBits - 1) : ℕ) := by
    unfold emax
    omega
  have size : (format.writtenExponent pattern).natAbs < 2 ^ (format.exponentBits - 1) := by
    unfold writtenExponent emin bias
    split
    · split <;> omega
    · omega
  exact size.trans (two_pow_lt_ten_pow (by omega))

/-! ## Significands -/

/-- Digits after the point in place of bits after the point. -/
theorem scale_eq {first second : ℕ} (exponent : ℤ) (count : ℕ) {bits : ℕ}
    (same : first * 2 ^ bits = second * 16 ^ count) :
    (first : ℝ) * 2 ^ (exponent - 4 * count) = second * 2 ^ (exponent - bits) := by
  have power : (2 : ℝ) ^ (4 * count : ℤ) = 16 ^ count := by
    rw [zpow_mul, zpow_natCast]
    norm_num
  have real : (first : ℝ) * 2 ^ bits = second * 16 ^ count := by exact_mod_cast same
  rw [zpow_sub₀ two_ne_zero, zpow_sub₀ two_ne_zero, power, zpow_natCast, ← mul_div_assoc,
    ← mul_div_assoc, div_eq_div_iff (by positivity) (by positivity), mul_right_comm, real]
  ring

/-- The digits of a finite pattern write its magnitude. -/
theorem readHex_partsOf {pattern : ℤ} (nonzero : format.magnitudeField pattern ≠ 0) :
    (readHex ((format.partsOf pattern).whole ++ (format.partsOf pattern).fraction) : ℝ) *
        2 ^ (format.writtenExponent pattern - 4 * (format.partsOf pattern).fraction.length) =
      format.magnitudeAt (format.magnitudeField pattern) := by
  obtain ⟨value, -⟩ := format.fractionDigits_spec (format.fractionField_lt pattern)
  have some := mt (format.fields_eq_zero_iff pattern).mp nonzero
  rw [← magnitudeOf_eq]
  unfold partsOf writtenExponent magnitudeOf
  dsimp only
  rw [if_neg some, readHex_append]
  generalize (format.fractionDigits (format.fractionField pattern)).toList = digits at value ⊢
  by_cases lowest : format.exponentField pattern = 0
  · have fraction : ¬ format.fractionField pattern = 0 := fun none => some ⟨lowest, none⟩
    rw [if_pos lowest, if_pos lowest, if_neg fraction, if_pos lowest]
    refine scale_eq _ _ ?_
    rw [show readHex ['0'] = 0 from rfl, Nat.zero_mul, Nat.zero_add, value]
  · rw [if_neg lowest, if_neg lowest, if_neg lowest]
    have whole := scale_eq (format.exponentField pattern - format.bias) digits.length
      (show (readHex ['1'] * 16 ^ digits.length + readHex digits) * 2 ^ format.fractionBits =
        (2 ^ format.fractionBits + format.fractionField pattern) * 16 ^ digits.length by
          rw [show readHex ['1'] = 1 from rfl, add_mul, value]
          ring)
    exact_mod_cast whole

/-! ## Decoding -/

theorem placeAt_magnitudeField {pattern : ℤ} (nonzero : format.magnitudeField pattern ≠ 0) :
    format.placeAt (format.magnitudeField pattern) =
      format.writtenExponent pattern - format.fractionBits := by
  have some := mt (format.fields_eq_zero_iff pattern).mp nonzero
  unfold placeAt placeIndexAt writtenExponent lowestPlace
  rw [← exponentField_eq]
  by_cases lowest : format.exponentField pattern = 0
  · have fraction : ¬ format.fractionField pattern = 0 := fun none => some ⟨lowest, none⟩
    rw [if_pos lowest, if_neg fraction, lowest]
    omega
  · rw [if_neg lowest]
    unfold emin bias
    omega

/-- A zero is written with a zero. -/
theorem readHex_partsOf_zero {pattern : ℤ} (zero : format.magnitudeField pattern = 0) :
    readHex ((format.partsOf pattern).whole ++ (format.partsOf pattern).fraction) = 0 := by
  have fields := (format.fields_eq_zero_iff pattern).mpr zero
  unfold partsOf
  dsimp only
  rw [if_pos fields.1, if_pos fields]
  rfl

/-- The parts of a finite pattern are rounded to it, without an exception. -/
theorem round_partsOf {pattern : ℕ} (fits : pattern < 2 ^ format.totalBits)
    (finite : format.isFinite pattern = true) :
    format.round .nearestEven (format.isNegative pattern)
        (readHex ((format.partsOf pattern).whole ++ (format.partsOf pattern).fraction))
        (format.writtenExponent pattern - 4 * (format.partsOf pattern).fraction.length) false =
      .ok ⟨pattern, .none⟩ := by
  have whole := format.signBit_add_magnitudeField fits
  obtain ⟨-, length, -⟩ := format.fractionDigits_spec (format.fractionField_lt pattern)
  rw [isFinite_iff] at finite
  by_cases zero : format.magnitudeField pattern = 0
  · rw [readHex_partsOf_zero format zero]
    rw [zero, Nat.add_zero] at whole
    conv_rhs => rw [← whole]
    rfl
  · have short : 4 * (format.partsOf pattern).fraction.length ≤ format.fractionBits + 3 := by
      unfold partsOf
      dsimp only
      split
      · exact Nat.zero_le _
      · exact length
    have limit := storageLimit_eq
    rw [round_magnitudeAt .nearestEven _ (Nat.pos_of_ne_zero zero) finite
      (format.readHex_partsOf zero) ?_, whole]
    rw [format.placeAt_magnitudeField zero]
    omega

/-- The parts of a finite pattern are decoded to it. -/
theorem decodeHex_partsOf (narrow : format.exponentBits ≤ 14000) {pattern : ℕ}
    (fits : pattern < 2 ^ format.totalBits) (finite : format.isFinite pattern = true)
    (literal : String) : format.decodeHex (format.partsOf pattern) literal = .ok pattern := by
  have exponent : readExponent (format.partsOf pattern).exponentNegative
      (format.partsOf pattern).exponent = .ok (format.writtenExponent pattern) :=
    readExponent_toDigits (format.writtenExponent_lt narrow finite)
  have whole : (format.partsOf pattern).whole.isEmpty = false := rfl
  have rounded : format.round .nearestEven (format.partsOf pattern).negative _ _ false = _ :=
    format.round_partsOf fits finite
  unfold decodeHex
  simp only [whole, exponent, rounded, Bool.false_and, Bool.false_eq_true, if_false, bind,
    Except.bind, pure, Except.pure]
  rfl

/-- A literal of digits stands for no name. -/
theorem decodeName?_of_chars {literal : String} {parts : HexParts}
    (written : literal.toList = parts.chars) : format.decodeName? literal = none := by
  have other (name : String) (rest : List Char) (letter : name.toList.head? ≠ some '0') :
      String.ofList ('0' :: rest) ≠ name := by
    rintro rfl
    rw [String.toList_ofList] at letter
    exact letter rfl
  unfold decodeName?
  rw [written, HexParts.chars, HexParts.takeSign_signChars]
  dsimp only
  rw [if_neg (other "nan" _ (by decide)), if_neg]
  rintro (short | long)
  · exact other "inf" _ (by decide) short
  · exact other "infinity" _ (by decide) long

/-- A literal of digits is decoded by its parts. -/
theorem decodeText_of_chars {literal : String} {parts : HexParts} (wellFormed : parts.WellFormed)
    (written : literal.toList = parts.chars) :
    format.decodeText literal = format.decodeHex parts literal := by
  have plain := HexParts.isPlain_of_mem_chars wellFormed
  rw [← written] at plain
  unfold decodeText
  rw [Text.strip_of_plain plain, Text.lowerCase_of_plain plain]
  dsimp only
  rw [format.decodeName?_of_chars written, written, HexParts.ofChars?_chars wellFormed]

theorem decodeText_nan (negative : Bool) :
    format.decodeText ((if negative then "-" else "") ++ "nan") =
      .ok (format.quietNaN negative) := by
  cases negative <;> rfl

theorem decodeText_inf (negative : Bool) :
    format.decodeText ((if negative then "-" else "") ++ "inf") =
      .ok (format.infinity negative) := by
  cases negative <;> rfl

/-! ## Every pattern -/

theorem render_of_isInfinite {pattern : ℤ} (infinite : format.isInfinite pattern = true) :
    format.render pattern = (if format.isNegative pattern then "-" else "") ++ "inf" := by
  rw [isInfinite, Bool.and_eq_true, beq_iff_eq, beq_iff_eq] at infinite
  unfold render
  dsimp only
  rw [if_pos infinite.1, if_pos infinite.2]

theorem render_of_isNaN {pattern : ℤ} (payload : format.isNaN pattern = true) :
    format.render pattern = (if format.isNegative pattern then "-" else "") ++ "nan" := by
  rw [isNaN, Bool.and_eq_true, beq_iff_eq, bne_iff_ne] at payload
  unfold render
  dsimp only
  rw [if_pos payload.1, if_neg payload.2]

/-- Every pattern is decoded from its text, up to the payload of a NaN. -/
theorem decodeText_render (narrow : format.exponentBits ≤ 14000) {pattern : ℕ}
    (fits : pattern < 2 ^ format.totalBits) :
    format.decodeText (format.render pattern) =
      .ok (if format.isNaN pattern then format.quietNaN (format.isNegative pattern)
        else pattern) := by
  rcases lt_trichotomy (format.magnitudeField pattern) format.infinityOrdinal with
    finite | infinite | payload
  · have number := (format.isNaN_eq_false_iff pattern).mpr finite.le
    rw [← isFinite_iff] at finite
    rw [number, if_neg Bool.false_ne_true,
      ← format.decodeHex_partsOf narrow fits finite (format.render pattern)]
    exact format.decodeText_of_chars (format.partsOf_wellFormed pattern)
      (format.render_toList finite)
  · have number := (format.isNaN_eq_false_iff pattern).mpr infinite.le
    have whole := format.signBit_add_magnitudeField fits
    rw [infinite] at whole
    rw [number, if_neg Bool.false_ne_true,
      format.render_of_isInfinite ((format.isInfinite_iff pattern).mpr infinite), decodeText_inf]
    exact congrArg Except.ok whole
  · rw [← isNaN_iff] at payload
    rw [if_pos payload, format.render_of_isNaN payload, decodeText_nan]

/-- Rendering and decoding are inverse: every pattern is decoded from its text, a NaN as the quiet
one with its sign. So patterns that are no NaNs have different texts. -/
theorem decode_render (narrow : format.exponentBits ≤ 14000) :
    (∀ pattern : ℕ, pattern < 2 ^ format.totalBits →
      format.decode (.text (format.render pattern)) =
        .ok (if format.isNaN pattern then format.quietNaN (format.isNegative pattern)
          else pattern)) ∧
    ∀ first second : ℕ, first < 2 ^ format.totalBits → second < 2 ^ format.totalBits →
      format.isNaN first = false → format.isNaN second = false →
        format.render first = format.render second → first = second := by
  refine ⟨fun pattern fits => ?_, ?_⟩
  · rw [decode]
    exact format.decodeText_render narrow fits
  · intro first second fits fits' number number' same
    have decoded := format.decodeText_render narrow fits
    have decoded' := format.decodeText_render narrow fits'
    rw [number, if_neg Bool.false_ne_true] at decoded
    rw [number', if_neg Bool.false_ne_true, ← same, decoded] at decoded'
    exact Except.ok.inj decoded'

/-- The least subnormal value and a NaN with a payload. -/
theorem decode_render_half :
    Format.half.exponentBits ≤ 14000 ∧ Format.half.render 1 = "0x0.004p-14" ∧
      Format.half.decode (.text "0x0.004p-14") = .ok 1 ∧
      Format.half.decode (.text (Format.half.render 64513)) = .ok (Format.half.quietNaN true) := by
  have narrow : Format.half.exponentBits ≤ 14000 := by decide
  have written : Format.half.render 1 = "0x0.004p-14" := by rfl
  have number : Format.half.isNaN 1 = false := by decide
  have payload : Format.half.isNaN 64513 = true := by decide
  have negative : Format.half.isNegative 64513 = true := by decide
  obtain ⟨inverse, -⟩ := decode_render Format.half narrow
  have least := inverse 1 (by decide)
  have quiet := inverse 64513 (by decide)
  rw [Nat.cast_one, written, number, if_neg Bool.false_ne_true] at least
  rw [Nat.cast_ofNat, payload, negative, if_pos rfl] at quiet
  exact ⟨narrow, written, least, quiet⟩

end Format

end LibmAudit
