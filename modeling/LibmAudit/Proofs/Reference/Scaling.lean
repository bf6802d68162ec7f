/-
**Scaling by a value rounds once.**

The reference library limits the power before it scales. The limit is beyond the range of the format
on both sides, where all numbers are rounded alike, so that it changes neither a pattern nor an
exception in any mode.

* `Reference.ldexp_eq`, `ldexp_eq_ok`: a scaled value is the rounding of the product.
* `Reference.IsScalb`: what scaling by a value has to give. `Reference.scalb_correct`: it does.
-/

import LibmAudit.Proofs.Check.Integer
import LibmAudit.Proofs.Native.Scaling
import LibmAudit.Proofs.Reference.Operations

namespace LibmAudit

attribute [local instance (high)] instPowNat

variable {format : Format} {mode : Mode}

namespace Reference

/-! ## Scaling by an integer -/

section

variable {negative : Bool} {ordinal : ℕ} (positive : 0 < ordinal)
  (finite : ordinal < format.infinityOrdinal) {power : ℤ}

include positive finite

/-- A scaled value is rounded, unless more bits are rounded off than memory holds. -/
theorem ldexp_eq (stored : ¬ IsBeyondStorage format (format.signBit negative + ordinal) power) :
    ldexp format mode (format.signBit negative + ordinal) power =
      .ok (.ofRounded (format.roundReal mode negative (format.magnitudeAt ordinal * 2 ^ power))) := by
  have parts := parts?_signBit_add negative positive finite
  have short : format.placeFor (format.significandAt ordinal) (format.placeAt ordinal + power) -
      (format.placeAt ordinal + power) < storageLimit :=
    not_le.mp fun long => stored ⟨_, parts, long⟩
  have given : StandsFor (format.significandAt ordinal) (format.placeAt ordinal + power) false
      (format.significandAt ordinal * 2 ^ (format.placeAt ordinal + power) : ℝ) := rfl
  rw [ldexp, parts]
  dsimp only
  rw [Format.round_eq mode negative given (format.significandAt_ne_zero positive) (Or.inr rfl)
    short, Format.significandAt_mul_two_pow]
  rfl

/-- What scaling ends with is the rounding. -/
theorem ldexp_eq_ok {response : Response}
    (ok : ldexp format mode (format.signBit negative + ordinal) power = .ok response) :
    response =
      .ofRounded (format.roundReal mode negative (format.magnitudeAt ordinal * 2 ^ power)) := by
  by_cases beyond : IsBeyondStorage format (format.signBit negative + ordinal) power
  · obtain ⟨parts, given, long⟩ := beyond
    have outcome := format.round_outcome mode parts.negative parts.significand
      (parts.exponent + power)
    rw [ldexp, given] at ok
    obtain ⟨rounded, rounds, -⟩ := map_eq_ok_iff.mp ok
    rw [rounds] at outcome
    have short := outcome.2.resolve_left (significand_ne_zero_of_parts? given)
    exact absurd long (not_le.mpr short)
  · rw [ldexp_eq positive finite beyond] at ok
    exact (Except.ok.inj ok).symm

end

theorem ldexp_of_parts?_eq_none {pattern : ℕ} (none : parts? format pattern = none) (power : ℤ) :
    ldexp format mode pattern power = .ok (.ofPattern pattern) := by
  rw [ldexp, none]

/-! ## Scaling by a value -/

/-- The pattern has this integer as its value. -/
def IsPower (format : Format) (pattern : ℕ) (power : ℤ) : Prop :=
  format.isFinite pattern = true ∧ format.realOf pattern = power

/-- What a value times two to the power of another value is in a mode, by the classes of the two. -/
inductive IsScalb (format : Format) (mode : Mode) (first second : ℕ) : Response → Prop
  | nan (either : format.isNaN first = true ∨ format.isNaN second = true) :
      IsScalb format mode first second (Reference.nan format)
  | fraction (number : format.isNaN first = false) (finite : format.isFinite second = true)
      (fraction : ∀ power : ℤ, format.realOf second ≠ power) :
      IsScalb format mode first second (Reference.nan format invalid)
  | top (number : format.isNaN first = false) (nonzero : format.isZero first = false)
      (infinite : second = format.infinity false) :
      IsScalb format mode first second (.ofPattern (format.infinity (format.isNegative first)))
  | topOfZero (zero : format.isZero first = true) (infinite : second = format.infinity false) :
      IsScalb format mode first second (Reference.nan format invalid)
  | bottom (number : format.isNaN first = false) (bounded : format.isInfinite first = false)
      (infinite : second = format.infinity true) :
      IsScalb format mode first second (.ofPattern (format.zero (format.isNegative first)))
  | bottomOfInfinity (unbounded : format.isInfinite first = true)
      (infinite : second = format.infinity true) :
      IsScalb format mode first second (Reference.nan format invalid)
  | unchanged {power : ℤ} (isPower : IsPower format second power)
      (kept : format.isZero first = true ∨ format.isInfinite first = true) :
      IsScalb format mode first second (.ofPattern first)
  /-- The product is rounded. So it is without a limit on the power, where that ends. -/
  | scaled {power : ℤ} (isPower : IsPower format second power)
      (finite : format.isFinite first = true) (nonzero : format.isZero first = false)
      {response : Response} (rounds : response.Rounds format mode (format.realOf first * 2 ^ power))
      (unlimited : ∀ other, ldexp format mode first power = .ok other → other = response) :
      IsScalb format mode first second response

/-- Limiting the power changes neither the pattern nor the exceptions. -/
theorem ldexp_clamped {negative : Bool} {ordinal : ℕ}
    (ranged : format.emax + format.fractionBits < exponentLimit) (positive : 0 < ordinal)
    (finite : ordinal < format.infinityOrdinal) (power : ℤ) :
    ldexp format mode (format.signBit negative + ordinal)
        (max (-scaleLimit format) (min (scaleLimit format) power)) =
      .ok (.ofRounded (format.roundReal mode negative (format.magnitudeAt ordinal * 2 ^ power))) := by
  have fits := format.signBit_add_lt negative (finite.trans format.infinityOrdinal_lt)
  obtain ⟨least, greatest⟩ := Format.magnitudeAt_bounds positive finite
  rw [ldexp_eq positive finite (not_isBeyondStorage fits ranged (le_max_left _ _)),
    format.roundReal_clamped mode negative least greatest (le_scaleLimit format)]

/-- Scaling by an integer, which may be beyond the limit. -/
theorem ldexp_isScalb {first second : ℕ} {power : ℤ}
    (ranged : format.emax + format.fractionBits < exponentLimit)
    (fits : first < 2 ^ format.totalBits) (number : format.isNaN first = false)
    (isPower : IsPower format second power) :
    ∃ response, ldexp format mode first
        (max (-scaleLimit format) (min (scaleLimit format) power)) = .ok response ∧
      IsScalb format mode first second response := by
  cases class_of_fits fits with
  | nan isNaN => exact absurd (number.symm.trans isNaN) Bool.false_ne_true
  | infinite _ _ _ isInfinite none =>
    exact ⟨_, ldexp_of_parts?_eq_none none _, .unchanged isPower (Or.inr isInfinite)⟩
  | zero _ _ _ _ isZero none =>
    exact ⟨_, ldexp_of_parts?_eq_none none _, .unchanged isPower (Or.inl isZero)⟩
  | finite negative ordinal positive inside pattern _ _ isZero =>
    subst pattern
    have rounds := format.rounds_roundReal mode negative (x := format.magnitudeAt ordinal *
      2 ^ power) (mul_pos (format.magnitudeAt_pos positive) (by positivity))
    have product : signed negative (format.magnitudeAt ordinal * 2 ^ power) =
        format.realOf (format.signBit negative + ordinal : ℕ) * 2 ^ power := by
      rw [format.realOf_signBit_add negative inside]
      cases negative
      · rfl
      · exact (neg_mul _ _).symm
    rw [product] at rounds
    exact ⟨_, ldexp_clamped ranged positive inside power,
      .scaled isPower (format.isFinite_signBit_add negative inside) isZero rounds
        fun _ ok => ldexp_eq_ok positive inside ok⟩

/-- **Scaling by a value rounds once.** A finite value that is not zero, times two to the power of a
finite value that is an integer, is the correct rounding of the product in every mode, with its
exceptions. -/
theorem scalb_correct {carrier : Carrier} (stored : format.carrier? = some carrier)
    {first second : ℕ} (fits : first < 2 ^ format.totalBits)
    (fits' : second < 2 ^ format.totalBits) (mode : Mode) :
    ∃ response, LibraryKind.reference.call .scalb format mode [.float first, .float second] =
      .ok response ∧ IsScalb format mode first second response := by
  obtain rfl := Format.format_of_carrier? stored
  have ranged := carrier.ranged
  generalize carrier.format = format at *
  show ∃ response, scalb format mode first second = .ok response ∧ _
  unfold scalb
  dsimp only
  by_cases nan : format.isNaN first = true ∨ format.isNaN second = true
  · rw [if_pos nan]
    exact ⟨_, rfl, .nan nan⟩
  rw [if_neg nan]
  rw [not_or, Bool.not_eq_true, Bool.not_eq_true] at nan
  obtain ⟨number, number'⟩ := nan
  by_cases infinite : format.isInfinite second = true
  · rw [if_pos infinite]
    have whole := format.eq_infinity_of_isInfinite fits' infinite
    by_cases negative : format.isNegative second = true
    · rw [negative] at whole
      rw [if_pos negative]
      by_cases unbounded : format.isInfinite first = true
      · rw [if_pos unbounded]
        exact ⟨_, rfl, .bottomOfInfinity unbounded whole⟩
      · rw [if_neg unbounded]
        exact ⟨_, rfl, .bottom number (Bool.eq_false_iff.mpr unbounded) whole⟩
    · rw [Bool.eq_false_iff.mpr negative] at whole
      rw [if_neg negative]
      by_cases zero : format.isZero first = true
      · rw [if_pos zero]
        exact ⟨_, rfl, .topOfZero zero whole⟩
      · rw [if_neg zero]
        exact ⟨_, rfl, .top number (Bool.eq_false_iff.mpr zero) whole⟩
  · rw [if_neg infinite]
    have finite := format.isFinite_of_number number' (Bool.eq_false_iff.mpr infinite)
    cases given : integer? format second with
    | none =>
      refine ⟨_, rfl, .fraction number finite fun power same => ?_⟩
      have some := (integer?_eq_some_iff format power).mpr ⟨finite, same⟩
      rw [given] at some
      exact absurd some nofun
    | some power =>
      exact ldexp_isScalb ranged fits number ((integer?_eq_some_iff format power).mp given)

/-- The negative least magnitude times two to the lowest power that sixteen bits hold. The power is
far below the limit, and the rounded product is not zero. -/
theorem scalb_correct_half :
    Format.half.carrier? = some .half ∧ 0x8001 < 2 ^ Format.half.totalBits ∧
      0xfbff < 2 ^ Format.half.totalBits ∧ scaleLimit .half = 80 ∧
      integer? .half 0xfbff = some (-65504) ∧
      LibraryKind.reference.call .scalb .half .down [.float 0x8001, .float 0xfbff] =
        .ok ⟨[.float 0x8001], { underflow := true, inexact := true }⟩ ∧
      IsScalb .half .down 0x8001 0xfbff
        ⟨[.float 0x8001], { underflow := true, inexact := true }⟩ := by
  have stored : Format.half.carrier? = some .half := by decide
  have fits : 0x8001 < 2 ^ Format.half.totalBits := by decide
  have fits' : 0xfbff < 2 ^ Format.half.totalBits := by decide
  have evaluated : LibraryKind.reference.call .scalb .half .down [.float 0x8001, .float 0xfbff] =
      .ok ⟨[.float 0x8001], { underflow := true, inexact := true }⟩ := by rfl
  obtain ⟨response, given, isScalb⟩ := scalb_correct stored fits fits' .down
  rw [evaluated] at given
  obtain rfl := Except.ok.inj given
  exact ⟨stored, fits, fits', by decide, by decide, evaluated, isScalb⟩

end Reference

end LibmAudit
