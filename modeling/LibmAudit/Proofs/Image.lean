/-
**Images keep patterns.**

A machine type keeps a pattern as an image in memory. Reading the image back gives the pattern, for
the extended type too, whose images have the leading bit of the significand between the exponent and
the fraction.

* `Format.fields_add`: a pattern is put together from its sign bit and its fields.
* `Format.wideWord_fields`, `wideWord_of_fields`: the fields of an image with a leading bit.
* `Format.IsCanonical`: images without padding, whose leading bit follows from the exponent field.
* `Format.ofWideImage_wideImage`, `wideImage_ofWideImage`: images with a leading bit.
* `Format.ofImage_imageOf`: all images.
* `Format.stores_patterns`: machine types keep exactly the patterns of their formats.
-/

import LibmAudit.Format.Image
import LibmAudit.Proofs.Pattern

namespace LibmAudit.Format

attribute [local instance (high)] instPowNat

variable (format : Format) {pattern : ℕ}

/-- A pattern is put together from its sign bit and its fields. -/
theorem fields_add (fits : pattern < 2 ^ format.totalBits) :
    (format.isNegative pattern).toNat * 2 ^ (format.totalBits - 1) +
      format.exponentField pattern * 2 ^ format.fractionBits + format.fractionField pattern =
        pattern := by
  have sign : (format.isNegative pattern).toNat * 2 ^ (format.totalBits - 1) =
      format.signBit (format.isNegative pattern) := by
    cases format.isNegative pattern
    · exact Nat.zero_mul _
    · exact Nat.one_mul _
  rw [sign, exponentField_eq, fractionField_eq, Nat.add_assoc, Nat.div_add_mod',
    format.signBit_add_magnitudeField fits]

theorem leadingBit_le (pattern : ℕ) : format.leadingBit pattern ≤ 1 := by
  unfold leadingBit
  split
  · exact Nat.zero_le 1
  · exact le_rfl

/-! ## Fields of an image -/

/-- A number put together from a sign, an exponent field, a leading bit and a fraction. -/
def wideWord (format : Format) (sign field leading fraction : ℕ) : ℕ :=
  sign * 2 ^ format.totalBits + field * 2 ^ (format.fractionBits + 1) +
    leading * 2 ^ format.fractionBits + fraction

/-- The fields are found where they were put. -/
theorem wideWord_fields (sign : ℕ) {field leading fraction : ℕ}
    (field_lt : field < 2 ^ format.exponentBits) (leading_le : leading ≤ 1)
    (fraction_lt : fraction < 2 ^ format.fractionBits) :
    format.wideWord sign field leading fraction / 2 ^ format.totalBits = sign ∧
      format.wideWord sign field leading fraction / 2 ^ (format.fractionBits + 1) %
        2 ^ format.exponentBits = field ∧
      format.wideWord sign field leading fraction / 2 ^ format.fractionBits % 2 = leading ∧
      format.wideWord sign field leading fraction % 2 ^ format.fractionBits = fraction := by
  have positive := Nat.two_pow_pos format.fractionBits
  have width : 2 ^ format.totalBits = 2 ^ format.exponentBits * 2 ^ (format.fractionBits + 1) := by
    rw [← pow_add, format.totalBits_eq, Nat.add_assoc]
  have double : 2 ^ (format.fractionBits + 1) = 2 ^ format.fractionBits * 2 := pow_succ ..
  -- Cut at the fraction, the number is that and all above it; cut again, the leading bit is left.
  have fractionAbove : format.wideWord sign field leading fraction =
      2 ^ format.fractionBits * ((sign * 2 ^ format.exponentBits + field) * 2 + leading) +
        fraction := by
    unfold wideWord
    rw [width, double]
    ring
  have above : format.wideWord sign field leading fraction / 2 ^ format.fractionBits =
      (sign * 2 ^ format.exponentBits + field) * 2 + leading := by
    rw [fractionAbove, Nat.mul_add_div positive, Nat.div_eq_of_lt fraction_lt, Nat.add_zero]
  have quotient : format.wideWord sign field leading fraction / 2 ^ (format.fractionBits + 1) =
      sign * 2 ^ format.exponentBits + field := by
    rw [double, ← Nat.div_div_eq_div_mul, above]
    omega
  refine ⟨?_, ?_, ?_, ?_⟩
  · rw [width, mul_comm, ← Nat.div_div_eq_div_mul, quotient, mul_comm,
      Nat.mul_add_div (Nat.two_pow_pos _), Nat.div_eq_of_lt field_lt, Nat.add_zero]
  · rw [quotient, mul_comm, Nat.mul_add_mod, Nat.mod_eq_of_lt field_lt]
  · rw [above]
    omega
  · rw [fractionAbove, Nat.mul_add_mod, Nat.mod_eq_of_lt fraction_lt]

/-- Every number is put together from its fields. -/
theorem wideWord_of_fields (image : ℕ) :
    format.wideWord (image / 2 ^ format.totalBits)
      (image / 2 ^ (format.fractionBits + 1) % 2 ^ format.exponentBits)
      (image / 2 ^ format.fractionBits % 2) (image % 2 ^ format.fractionBits) = image := by
  have width : 2 ^ format.totalBits = 2 ^ (format.fractionBits + 1) * 2 ^ format.exponentBits := by
    rw [← pow_add, format.totalBits_eq, Nat.add_assoc, Nat.add_comm]
  have double : 2 ^ (format.fractionBits + 1) = 2 ^ format.fractionBits * 2 := pow_succ ..
  have fraction := Nat.div_add_mod' image (2 ^ format.fractionBits)
  have leading := Nat.div_add_mod' (image / 2 ^ format.fractionBits) 2
  have field := Nat.div_add_mod' (image / 2 ^ (format.fractionBits + 1)) (2 ^ format.exponentBits)
  rw [Nat.div_div_eq_div_mul, ← double] at leading
  rw [Nat.div_div_eq_div_mul, ← width] at field
  unfold wideWord
  calc image / 2 ^ format.totalBits * 2 ^ format.totalBits +
        image / 2 ^ (format.fractionBits + 1) % 2 ^ format.exponentBits *
          2 ^ (format.fractionBits + 1) +
        image / 2 ^ format.fractionBits % 2 * 2 ^ format.fractionBits +
        image % 2 ^ format.fractionBits
      = ((image / 2 ^ format.totalBits * 2 ^ format.exponentBits +
          image / 2 ^ (format.fractionBits + 1) % 2 ^ format.exponentBits) * 2 +
          image / 2 ^ format.fractionBits % 2) * 2 ^ format.fractionBits +
        image % 2 ^ format.fractionBits := by
        rw [width, double]
        ring
    _ = image := by rw [field, leading, fraction]

/-- The fields of a pattern that is put together from them. -/
theorem packed_fields (negative : Bool) {field fraction : ℕ}
    (field_lt : field < 2 ^ format.exponentBits) (fraction_lt : fraction < 2 ^ format.fractionBits) :
    negative.toNat * 2 ^ (format.totalBits - 1) + field * 2 ^ format.fractionBits + fraction <
        2 ^ format.totalBits ∧
      ∀ pattern : ℕ, pattern = negative.toNat * 2 ^ (format.totalBits - 1) +
          field * 2 ^ format.fractionBits + fraction →
        format.isNegative pattern = negative ∧ format.exponentField pattern = field ∧
          format.fractionField pattern = fraction := by
  have positive := Nat.two_pow_pos format.fractionBits
  have small : field * 2 ^ format.fractionBits + fraction < 2 ^ (format.totalBits - 1) := by
    rw [two_pow_pred_totalBits]
    calc field * 2 ^ format.fractionBits + fraction
        < (field + 1) * 2 ^ format.fractionBits := by rw [Nat.add_mul, Nat.one_mul]; omega
      _ ≤ 2 ^ format.exponentBits * 2 ^ format.fractionBits := Nat.mul_le_mul_right _ field_lt
  have sign : negative.toNat * 2 ^ (format.totalBits - 1) = format.signBit negative := by
    cases negative
    · exact Nat.zero_mul _
    · exact Nat.one_mul _
  rw [sign, Nat.add_assoc]
  refine ⟨format.signBit_add_lt negative small, ?_⟩
  rintro pattern rfl
  rw [exponentField_eq, fractionField_eq, magnitudeField_signBit_add _ _ small, mul_comm,
    Nat.mul_add_div positive, Nat.div_eq_of_lt fraction_lt, Nat.add_zero, Nat.mul_add_mod,
    Nat.mod_eq_of_lt fraction_lt]
  rw [mul_comm] at small
  exact ⟨format.isNegative_signBit_add negative small, rfl, rfl⟩

/-! ## Images with a leading bit -/

/-- The leading bit is left out again. -/
theorem ofWideImage_wideImage (fits : pattern < 2 ^ format.totalBits) :
    format.ofWideImage (format.wideImage pattern) = pattern := by
  obtain ⟨top, middle, -, bottom⟩ := format.wideWord_fields (format.isNegative pattern).toNat
    (format.exponentField_lt pattern) (format.leadingBit_le pattern)
    (format.fractionField_lt pattern)
  have word : format.wideImage pattern = format.wideWord (format.isNegative pattern).toNat
      (format.exponentField pattern) (format.leadingBit pattern)
      (format.fractionField pattern) := rfl
  have sign : (format.isNegative pattern).toNat < 2 := Bool.toNat_lt _
  unfold ofWideImage
  rw [word, top, middle, bottom, Nat.mod_eq_of_lt sign, format.fields_add fits]

/-- An image without padding, whose leading bit is set just if the exponent field is not zero. -/
def IsCanonical (format : Format) (image : ℕ) : Prop :=
  image < 2 ^ (format.totalBits + 1) ∧
    (image.testBit format.fractionBits = true ↔
      image / 2 ^ (format.fractionBits + 1) % 2 ^ format.exponentBits ≠ 0)

/-- The leading bit of a canonical image, by its exponent field. -/
theorem IsCanonical.leading {image : ℕ} (canonical : format.IsCanonical image) :
    image / 2 ^ format.fractionBits % 2 =
      if image / 2 ^ (format.fractionBits + 1) % 2 ^ format.exponentBits = 0 then 0 else 1 := by
  have bit := canonical.2
  rw [Nat.testBit_eq_decide_div_mod_eq, decide_eq_true_eq] at bit
  split
  · next zero =>
    have unset := mt bit.mp (not_not.mpr zero)
    omega
  · next nonzero => exact bit.mpr nonzero

/-- The image of a pattern is canonical. -/
theorem wideImage_isCanonical (pattern : ℕ) : format.IsCanonical (format.wideImage pattern) := by
  obtain ⟨top, middle, leading, -⟩ := format.wideWord_fields (format.isNegative pattern).toNat
    (format.exponentField_lt pattern) (format.leadingBit_le pattern)
    (format.fractionField_lt pattern)
  have sign : (format.isNegative pattern).toNat < 2 := Bool.toNat_lt _
  constructor
  · rw [pow_succ', ← Nat.div_lt_iff_lt_mul (Nat.two_pow_pos _)]
    exact top.trans_lt sign
  · rw [Nat.testBit_eq_decide_div_mod_eq, decide_eq_true_eq]
    change format.wideWord _ _ _ _ / 2 ^ format.fractionBits % 2 = 1 ↔
      format.wideWord _ _ _ _ / 2 ^ (format.fractionBits + 1) % 2 ^ format.exponentBits ≠ 0
    rw [leading, middle, leadingBit]
    split
    · next zero => exact iff_of_false Nat.zero_ne_one (not_not.mpr zero)
    · next nonzero => exact iff_of_true rfl nonzero

/-- What is beyond the sign is not read. -/
theorem ofWideImage_padded (image padding : ℕ) :
    format.ofWideImage (image + padding * 2 ^ (format.totalBits + 1)) =
      format.ofWideImage image := by
  have width : 2 ^ (format.totalBits + 1) =
      2 ^ (format.fractionBits + 1) * (2 ^ format.exponentBits * 2) := by
    rw [← pow_succ, ← pow_add, format.totalBits_eq]
    congr 1
    omega
  have sign : (image + padding * 2 ^ (format.totalBits + 1)) / 2 ^ format.totalBits % 2 =
      image / 2 ^ format.totalBits % 2 := by
    rw [pow_succ, mul_comm _ 2, ← mul_assoc, Nat.add_mul_div_right _ _ (Nat.two_pow_pos _),
      Nat.add_mul_mod_self_right]
  have field : (image + padding * 2 ^ (format.totalBits + 1)) / 2 ^ (format.fractionBits + 1) %
      2 ^ format.exponentBits =
        image / 2 ^ (format.fractionBits + 1) % 2 ^ format.exponentBits := by
    rw [width, mul_left_comm, Nat.add_mul_div_left _ _ (Nat.two_pow_pos _), mul_left_comm,
      Nat.add_mul_mod_self_left]
  have fraction : (image + padding * 2 ^ (format.totalBits + 1)) % 2 ^ format.fractionBits =
      image % 2 ^ format.fractionBits := by
    rw [width, pow_succ, mul_assoc, mul_left_comm, Nat.add_mul_mod_self_left]
  unfold ofWideImage
  rw [sign, field, fraction]

/-- A canonical image is that of a pattern of the format. -/
theorem wideImage_ofWideImage {image : ℕ} (canonical : format.IsCanonical image) :
    format.ofWideImage image < 2 ^ format.totalBits ∧
      format.wideImage (format.ofWideImage image) = image := by
  have small := canonical.1
  rw [pow_succ] at small
  have sign := Nat.div_lt_of_lt_mul small
  obtain ⟨negative, top⟩ : ∃ negative : Bool, image / 2 ^ format.totalBits = negative.toNat := by
    rcases Nat.lt_succ_iff_lt_or_eq.mp sign with zero | one
    · exact ⟨false, Nat.lt_one_iff.mp zero⟩
    · exact ⟨true, one⟩
  have pattern : format.ofWideImage image = negative.toNat * 2 ^ (format.totalBits - 1) +
      image / 2 ^ (format.fractionBits + 1) % 2 ^ format.exponentBits * 2 ^ format.fractionBits +
        image % 2 ^ format.fractionBits := by
    unfold ofWideImage
    rw [top, Nat.mod_eq_of_lt (Bool.toNat_lt negative)]
  obtain ⟨fits, fields⟩ := format.packed_fields negative
    (Nat.mod_lt (image / 2 ^ (format.fractionBits + 1)) (Nat.two_pow_pos format.exponentBits))
    (Nat.mod_lt image (Nat.two_pow_pos format.fractionBits))
  obtain ⟨isNegative, field, fraction⟩ := fields _ pattern
  rw [← pattern] at fits
  refine ⟨fits, ?_⟩
  rw [wideImage, leadingBit, isNegative, field, fraction, ← top, ← canonical.leading]
  exact format.wideWord_of_fields image

/-! ## All images -/

/-- Reading the image of a pattern back gives the pattern. -/
theorem ofImage_imageOf (fits : pattern < 2 ^ format.totalBits) :
    format.ofImage (format.imageOf pattern) = pattern := by
  unfold ofImage imageOf
  split
  · exact format.ofWideImage_wideImage fits
  · exact Nat.mod_eq_of_lt fits

variable {format} {carrier : Carrier}

theorem isPattern_iff {pattern : ℤ} :
    format.isPattern pattern = true ↔ 0 ≤ pattern ∧ pattern < (2 ^ format.totalBits : ℕ) :=
  decide_eq_true_iff

/-- A pattern of the format of a machine type is stored. -/
theorem store_of_fits (stored : format.carrier? = some carrier)
    (fits : pattern < 2 ^ format.totalBits) : format.store pattern = .ok (format.imageOf pattern) := by
  have isPattern : format.isPattern pattern = true :=
    isPattern_iff.mpr ⟨Int.natCast_nonneg _, by exact_mod_cast fits⟩
  unfold store
  rw [stored, Option.isNone_some, if_neg Bool.false_ne_true, if_pos isPattern, Int.toNat_natCast]

/-- No other integer is stored. -/
theorem store_of_not_fits (stored : format.carrier? = some carrier) {pattern : ℤ}
    (outside : pattern < 0 ∨ (2 ^ format.totalBits : ℕ) ≤ pattern) :
    format.store pattern = .error (.patternTooWide pattern format.totalBits) := by
  have isPattern : ¬ format.isPattern pattern = true := by
    rw [isPattern_iff, not_and_or, not_le, not_lt]
    exact outside
  unfold store
  rw [stored, Option.isNone_some, if_neg Bool.false_ne_true, if_neg isPattern]

/-- Only the extended type stores the leading bit, in ten bytes of sixteen. -/
theorem storage_of_carrier? (stored : format.carrier? = some carrier) :
    (carrier = .extended ∧ format = .extended) ∨
      (format.storesLeadingBit = false ∧ carrier.storageBits = format.totalBits) := by
  obtain rfl := format_of_carrier? stored
  cases carrier
  · exact Or.inr ⟨rfl, rfl⟩
  · exact Or.inr ⟨rfl, rfl⟩
  · exact Or.inr ⟨rfl, rfl⟩
  · exact Or.inl ⟨rfl, rfl⟩

/-- An image has room in its machine type. -/
theorem imageOf_lt (stored : format.carrier? = some carrier)
    (fits : pattern < 2 ^ format.totalBits) : format.imageOf pattern < 2 ^ carrier.storageBits := by
  rcases storage_of_carrier? stored with ⟨rfl, rfl⟩ | ⟨plain, width⟩
  · have wide := (Format.extended.wideImage_isCanonical pattern).1
    exact wide.trans (Nat.pow_lt_pow_right one_lt_two (by decide))
  · rw [imageOf, plain, if_neg Bool.false_ne_true, width]
    exact fits

/-- Machine types keep exactly the patterns of their formats. An integer outside of the range of
patterns is refused as a value; a pattern is stored in as many bits as the type has, and is the same
when it is read back. Images without a stored leading bit are the patterns. Those of the extended
type are canonical, and a canonical image is that of the pattern which is read from it, whatever
stands in the 48 bits of padding. -/
theorem stores_patterns (stored : format.carrier? = some carrier) :
    (∀ pattern : ℤ, (∃ fault, format.store pattern = .error fault ∧ fault.category = .value) ↔
      pattern < 0 ∨ (2 ^ format.totalBits : ℕ) ≤ pattern) ∧
    (∀ pattern : ℕ, pattern < 2 ^ format.totalBits →
      (∃ image, format.store pattern = .ok image ∧ image < 2 ^ carrier.storageBits) ∧
        format.restore pattern = .ok pattern) ∧
    (carrier ≠ .extended → ∀ image < 2 ^ carrier.storageBits,
      format.store (format.ofImage image) = .ok image) ∧
    (∀ (pattern : ℤ) (image : ℕ), Format.extended.store pattern = .ok image →
      Format.extended.IsCanonical image) ∧
    ∀ image padding : ℕ, Format.extended.IsCanonical image → padding < 2 ^ 48 →
      Format.extended.store (Format.extended.ofImage (image + padding * 2 ^ 80)) = .ok image := by
  refine ⟨fun pattern => ⟨?_, fun outside => ⟨_, store_of_not_fits stored outside, rfl⟩⟩,
    fun pattern fits => ⟨⟨_, store_of_fits stored fits, imageOf_lt stored fits⟩, ?_⟩,
    fun plain image small => ?_, fun pattern image written => ?_,
    fun image padding canonical _ => ?_⟩
  · rintro ⟨fault, refused, -⟩
    by_contra inside
    rw [not_or, not_lt, not_le] at inside
    obtain ⟨natural, rfl⟩ := Int.eq_ofNat_of_zero_le inside.1
    rw [store_of_fits stored (by exact_mod_cast inside.2)] at refused
    exact absurd refused nofun
  · rw [restore, store_of_fits stored fits]
    exact congrArg Except.ok (format.ofImage_imageOf fits)
  · rcases storage_of_carrier? stored with ⟨extended, -⟩ | ⟨narrow, width⟩
    · exact absurd extended plain
    · rw [width] at small
      have read : format.ofImage image = image := by
        rw [ofImage, narrow, if_neg Bool.false_ne_true, Nat.mod_eq_of_lt small]
      rw [read, store_of_fits stored small, imageOf, narrow, if_neg Bool.false_ne_true]
  · unfold store at written
    split_ifs at written
    rw [← Except.ok.inj written]
    exact Format.extended.wideImage_isCanonical _
  · have width : 2 ^ 80 = 2 ^ (Format.extended.totalBits + 1) := rfl
    have read : Format.extended.ofImage (image + padding * 2 ^ 80) =
        Format.extended.ofWideImage image := by
      rw [width]
      exact Format.extended.ofWideImage_padded image padding
    have extended : Format.extended.carrier? = some .extended := carrier?_format .extended
    obtain ⟨fits, same⟩ := Format.extended.wideImage_ofWideImage canonical
    rw [read, store_of_fits extended fits]
    exact congrArg Except.ok same

/-- A signaling NaN with a payload is kept, and is read from its ten bytes whatever pads them. -/
theorem stores_patterns_extended :
    Format.extended.carrier? = some .extended ∧
      Format.extended.restore 0x7fff800000000000002a = .ok 0x7fff800000000000002a ∧
      Format.extended.store 0x7fff800000000000002a = .ok 0xffff800000000000002a ∧
      Format.extended.store (Format.extended.ofImage (0xffff800000000000002a + 0xbeef * 2 ^ 80)) =
        .ok 0xffff800000000000002a := by
  have extended : Format.extended.carrier? = some .extended := carrier?_format .extended
  obtain ⟨-, kept, -, written, read⟩ := stores_patterns extended
  have image : Format.extended.store 0x7fff800000000000002a = .ok 0xffff800000000000002a := rfl
  exact ⟨extended, (kept 0x7fff800000000000002a (by decide)).2, image,
    read _ 0xbeef (written _ _ image) (by decide)⟩

end LibmAudit.Format
