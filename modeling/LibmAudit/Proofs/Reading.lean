/-
**The readings of a pattern agree.**

Every reading of a pattern takes the exponent field and the fraction field out of it anew. Both are
parts of the number of its magnitude, and so all readings are those of the magnitude with that
number, for integers that are too wide or negative as well.

* `PatternClass`, `Format.IsOf`: the five classes. `Format.isOf_iff`: they are intervals of the
  numbers.
* `Format.ReadsAs`, `IsUnreadable`: what the four readings give, or that none gives anything.
* `Format.roundSigned_reading`: rounding what has been read gives the pattern back.
* `Format.readings_agree`: all of it.
-/

import LibmAudit.Format.Reading
import LibmAudit.Proofs.Order.Ordinal
import LibmAudit.Proofs.Reference.Parts
import LibmAudit.Proofs.Rounding.Exact

namespace LibmAudit

attribute [local instance (high)] instPowNat

/-- The classes of patterns. -/
inductive PatternClass
  | nan
  | infinite
  | zero
  | subnormal
  | normal

namespace Format

/-- Whether a pattern is of a class. The normal ones are finite with a significand of full
length. -/
def IsOf (format : Format) (pattern : ℤ) : PatternClass → Prop
  | .nan => format.isNaN pattern = true
  | .infinite => format.isInfinite pattern = true
  | .zero => format.isZero pattern = true
  | .subnormal => format.isSubnormal pattern = true
  | .normal => format.isFinite pattern = true ∧ ∃ significand,
      format.finiteSignificand pattern = .ok significand ∧
        bitLength significand = format.precision

/-- All readings of a pattern go well, and the last one puts the others together. -/
structure ReadsAs (format : Format) (pattern exponent : ℤ) (significand : ℕ) : Prop where
  exponent_eq : format.finiteExponent pattern = .ok exponent
  significand_eq : format.finiteSignificand pattern = .ok significand
  place_eq : format.finitePlace pattern = .ok (exponent - format.fractionBits)
  parts_eq : format.finiteParts pattern =
    .ok (signed (format.isNegative pattern) (significand : ℤ), exponent - format.fractionBits)

/-- A reading that is refused for the value of the pattern. -/
def IsRefused {α : Type} (reading : Except Fault α) : Prop :=
  ∃ fault, reading = .error fault ∧ fault.category = .value

/-- All readings of a pattern are refused. -/
structure IsUnreadable (format : Format) (pattern : ℤ) : Prop where
  exponent : IsRefused (format.finiteExponent pattern)
  significand : IsRefused (format.finiteSignificand pattern)
  place : IsRefused (format.finitePlace pattern)
  parts : IsRefused (format.finiteParts pattern)

variable (format : Format) {pattern : ℤ}

/-! ## Classes -/

theorem isSubnormal_iff (pattern : ℤ) : format.isSubnormal pattern = true ↔
    0 < format.magnitudeField pattern ∧
      format.magnitudeField pattern < 2 ^ format.fractionBits := by
  have positive := Nat.two_pow_pos format.fractionBits
  rw [isSubnormal, Bool.and_eq_true, beq_iff_eq, bne_iff_ne, exponentField_eq, fractionField_eq,
    Nat.div_eq_zero_iff_lt positive]
  constructor
  · rintro ⟨below, nonzero⟩
    rw [Nat.mod_eq_of_lt below] at nonzero
    exact ⟨Nat.pos_of_ne_zero nonzero, below⟩
  · rintro ⟨nonzero, below⟩
    rw [Nat.mod_eq_of_lt below]
    exact ⟨below, nonzero.ne'⟩

/-- Significands of full length are those of the numbers from the least normal one on. -/
theorem bitLength_significandAt_eq_iff (ordinal : ℕ) :
    bitLength (format.significandAt ordinal) = format.precision ↔
      2 ^ format.fractionBits ≤ ordinal := by
  have width := format.fractionBits_add_one
  have short := bitLength_le_iff.mpr (format.significandAt_lt ordinal)
  have full := @lt_bitLength_iff (format.significandAt ordinal) format.fractionBits
  have whole : 2 ^ format.fractionBits ≤ format.significandAt ordinal ↔
      2 ^ format.fractionBits ≤ ordinal := by
    have low := Nat.div_eq_zero_iff_lt (x := ordinal) (Nat.two_pow_pos format.fractionBits)
    unfold significandAt
    split_ifs with below
    · rw [Nat.mod_eq_of_lt (low.mp below)]
    · exact iff_of_true (Nat.le_add_right _ _) (not_lt.mp (low.not.mp below))
  omega

theorem isNormal_iff (pattern : ℤ) : format.IsOf pattern .normal ↔
    2 ^ format.fractionBits ≤ format.magnitudeField pattern ∧
      format.magnitudeField pattern < format.infinityOrdinal := by
  rw [← bitLength_significandAt_eq_iff, and_comm, ← isFinite_iff]
  refine and_congr_right fun finite => ?_
  rw [finiteSignificand, format.significandOf?_eq finite]
  constructor
  · rintro ⟨significand, same, full⟩
    rwa [← Except.ok.inj same] at full
  · intro full
    exact ⟨_, rfl, full⟩

/-- The class of the magnitude with a number. -/
def classAt (ordinal : ℕ) : PatternClass :=
  if format.infinityOrdinal < ordinal then .nan
  else if ordinal = format.infinityOrdinal then .infinite
  else if 2 ^ format.fractionBits ≤ ordinal then .normal
  else if ordinal = 0 then .zero
  else .subnormal

/-- A pattern is of the class of its magnitude, and of no other. -/
theorem isOf_iff (pattern : ℤ) (kind : PatternClass) :
    format.IsOf pattern kind ↔ kind = format.classAt (format.magnitudeField pattern) := by
  have first := Nat.two_pow_pos format.fractionBits
  have last := format.two_pow_fractionBits_le_infinityOrdinal
  have interval : format.IsOf pattern kind ↔ match kind with
      | .nan => format.infinityOrdinal < format.magnitudeField pattern
      | .infinite => format.magnitudeField pattern = format.infinityOrdinal
      | .zero => format.magnitudeField pattern = 0
      | .subnormal => 0 < format.magnitudeField pattern ∧
          format.magnitudeField pattern < 2 ^ format.fractionBits
      | .normal => 2 ^ format.fractionBits ≤ format.magnitudeField pattern ∧
          format.magnitudeField pattern < format.infinityOrdinal := by
    cases kind with
    | nan => exact format.isNaN_iff pattern
    | infinite => exact format.isInfinite_iff pattern
    | zero => exact format.isZero_iff pattern
    | subnormal => exact format.isSubnormal_iff pattern
    | normal => exact format.isNormal_iff pattern
  rw [interval, classAt]
  cases kind <;> split_ifs <;> simp only [iff_true, iff_false] <;> omega

/-! ## Readings -/

theorem readsAs_of_finite (finite : format.isFinite pattern = true) :
    format.ReadsAs pattern
      (format.placeAt (format.magnitudeField pattern) + format.fractionBits)
      (format.significandAt (format.magnitudeField pattern)) := by
  have place := format.placeOf?_eq finite
  obtain ⟨exponent, read, same⟩ := Option.map_eq_some_iff.mp place
  rw [← same, Int.sub_add_cancel]
  refine ⟨?_, ?_, ?_, ?_⟩
  · rw [finiteExponent, read]
    rfl
  · rw [finiteSignificand, format.significandOf?_eq finite]
    rfl
  · rw [finitePlace, place, same]
    rfl
  · rw [finiteParts, format.scaled?_eq finite, same]
    rfl

theorem isUnreadable_of_not_finite (special : format.isFinite pattern = false) :
    format.IsUnreadable pattern := by
  have field : format.exponentField pattern = format.exponentMask := by
    simpa [isFinite] using special
  have exponent : format.exponentOf? pattern = none := if_pos field
  have significand : format.significandOf? pattern = none := if_pos field
  refine ⟨⟨.noExponent pattern, ?_, rfl⟩, ⟨.noSignificand pattern, ?_, rfl⟩,
    ⟨.noExponent pattern, ?_, rfl⟩, ⟨.nonfinitePattern pattern, ?_, rfl⟩⟩
  · rw [finiteExponent, exponent]
    rfl
  · rw [finiteSignificand, significand]
    rfl
  · rw [finitePlace, placeOf?, exponent]
    rfl
  · rw [finiteParts, format.scaled?_of_not_finite special]
    rfl

/-- What has been read of a pattern of the format is rounded to the pattern, without an
exception. -/
theorem roundSigned_reading {exponent : ℤ} {significand : ℕ}
    (finite : format.isFinite pattern = true)
    (reads : format.ReadsAs pattern exponent significand) (nonneg : 0 ≤ pattern)
    (fits : pattern < (2 ^ format.totalBits : ℕ)) (mode : Mode) :
    format.roundSigned mode (format.isNegative pattern) significand
      (exponent - format.fractionBits) false = .ok ⟨pattern.toNat, .none⟩ := by
  lift pattern to ℕ using nonneg
  have whole := format.signBit_add_magnitudeField (Int.ofNat_lt.mp fits)
  have given := format.readsAs_of_finite finite
  obtain rfl := Except.ok.inj (reads.significand_eq.symm.trans given.significand_eq)
  have place := Except.ok.inj (reads.place_eq.symm.trans given.place_eq)
  rw [roundSigned, if_neg (by omega), place, Int.add_sub_cancel, Int.toNat_natCast,
    Int.toNat_natCast]
  rcases Nat.eq_zero_or_pos (format.magnitudeField pattern) with zero | positive
  · rw [zero, Nat.add_zero] at whole
    rw [zero, round, if_pos (by simp [significandAt]), if_neg Bool.false_ne_true, Format.zero,
      whole]
  · rw [round_magnitudeAt mode _ positive ((format.isFinite_iff _).mp finite) rfl
      (by rw [sub_self]; decide), whole]

/-- **The readings of a pattern agree.** An integer of any width and sign is of exactly one class.
If it is finite, all four readings go well: the signed significand is the significand with the
sign of the sign bit, at the place of the last bit. If not, all four are refused. A finite pattern
of the format is the rounding of its significand at its place, in every mode and without an
exception. -/
theorem readings_agree (format : Format) (pattern : ℤ) :
    (format.isFinite pattern = false → format.IsUnreadable pattern) ∧
    (format.isFinite pattern = true → ∃ exponent significand,
      format.ReadsAs pattern exponent significand ∧
      (0 ≤ pattern → pattern < (2 ^ format.totalBits : ℕ) → ∀ mode,
        format.roundSigned mode (format.isNegative pattern) significand
          (exponent - format.fractionBits) false = .ok ⟨pattern.toNat, .none⟩)) ∧
    ∃! kind, format.IsOf pattern kind := by
  refine ⟨format.isUnreadable_of_not_finite, fun finite => ?_, ?_⟩
  · have reads := format.readsAs_of_finite finite
    exact ⟨_, _, reads, format.roundSigned_reading finite reads⟩
  · refine ⟨format.classAt (format.magnitudeField pattern), (format.isOf_iff _ _).mpr rfl, ?_⟩
    intro kind isOf
    exact (format.isOf_iff _ _).mp isOf

/-- In the half format the negative integer with the lowest bits of the negative infinity is not
read, the largest subnormal value below zero is, and comes back, and an integer with a bit too many
has one class. -/
theorem readings_agree_half :
    half.IsUnreadable (-1024) ∧
    (∃ exponent significand, half.ReadsAs 0x83ff exponent significand ∧ ∀ mode,
      half.roundSigned mode (half.isNegative 0x83ff) significand (exponent - half.fractionBits)
        false = .ok ⟨0x83ff, .none⟩) ∧
    ∃! kind, half.IsOf 0x183ff kind := by
  obtain ⟨exponent, significand, reads, back⟩ := (half.readings_agree 0x83ff).2.1 (by decide)
  exact ⟨(half.readings_agree (-1024)).1 (by decide),
    ⟨exponent, significand, reads, back (by decide) (by decide)⟩,
    (half.readings_agree 0x183ff).2.2⟩

end Format

end LibmAudit
