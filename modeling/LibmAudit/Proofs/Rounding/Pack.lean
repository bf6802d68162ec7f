/-
**Packing by number.**

A rounded significand at a place is the number of its magnitude, so that packing only has to add the
sign bit, or to overflow from the number of the infinities on. A carry into the next binade leaves
the number as it is.

* `Format.pack_normalize`: the packed pattern is the sign bit and the number.
-/

import LibmAudit.Proofs.Rounding.Basic

namespace LibmAudit.Format

attribute [local instance (high)] instPowNat

variable (format : Format)

/-- The pattern with a sign and a number, or the overflow. -/
def packNumber (mode : Mode) (negative : Bool) (ordinal : ℕ) (flags : Flags) : Rounded :=
  if format.infinityOrdinal ≤ ordinal then
    ⟨format.overflowed mode negative, { flags with overflow := true, inexact := true }⟩
  else ⟨format.signBit negative + ordinal, flags⟩

variable {format}

theorem bitLength_of_normal {kept : ℕ} (normal : 2 ^ format.fractionBits ≤ kept)
    (small : kept < 2 ^ format.precision) : bitLength kept = format.precision := by
  have := format.fractionBits_add_one
  have := lt_bitLength_iff.mpr normal
  have := bitLength_le_iff.mpr small
  omega

/-- A subnormal significand is its own number. -/
theorem pack_subnormal (mode : Mode) (negative : Bool) {kept : ℕ} (inexact : Bool) (flags : Flags)
    (subnormal : kept < 2 ^ format.fractionBits) :
    format.pack mode negative ⟨kept, format.lowestPlace, inexact⟩ flags =
      format.packNumber mode negative kept flags := by
  have finite := format.two_pow_fractionBits_le_infinityOrdinal
  have length := bitLength_le_iff.mpr subnormal
  have range := format.emin_le_emax
  have width := format.fractionBits_add_one
  rw [packNumber, if_neg (not_le.mpr (subnormal.trans_le finite)), pack]
  dsimp only
  by_cases zero : kept = 0
  · rw [if_pos zero, zero, Format.zero, Nat.add_zero]
  · have below : ¬ format.emax < leadingExponent kept format.lowestPlace := by
      unfold leadingExponent lowestPlace
      omega
    rw [if_neg zero, if_neg below, if_pos (by omega)]

/-- A normal significand overflows when its leading digit is too high. -/
theorem pack_normal (mode : Mode) (negative : Bool) {index kept : ℕ} (inexact : Bool)
    (flags : Flags) (normal : 2 ^ format.fractionBits ≤ kept)
    (small : kept < 2 ^ format.precision) :
    format.pack mode negative ⟨kept, format.lowestPlace + index, inexact⟩ flags =
      format.packNumber mode negative (index * 2 ^ format.fractionBits + kept) flags := by
  have positive := Nat.two_pow_pos format.fractionBits
  have length := bitLength_of_normal normal small
  have width := format.fractionBits_add_one
  have mask := format.exponentMask_eq
  have leading : leadingExponent kept (format.lowestPlace + index) = format.emin + index := by
    unfold leadingExponent lowestPlace
    omega
  have limits : format.emax < format.emin + index ↔
      format.infinityOrdinal ≤ index * 2 ^ format.fractionBits + kept := by
    rw [two_pow_precision] at small
    have field :
        (index * 2 ^ format.fractionBits + kept) / 2 ^ format.fractionBits = index + 1 := by
      rw [add_comm, Nat.add_mul_div_right _ _ positive,
        Nat.div_eq_of_lt_le (by omega) (by omega) (k := 1), add_comm]
    rw [infinityOrdinal, ← Nat.le_div_iff_mul_le positive, field]
    unfold emin
    omega
  unfold pack packNumber
  simp only [leading, limits, length, lt_irrefl, if_false]
  rw [if_neg (by omega)]
  by_cases overflow : format.infinityOrdinal ≤ index * 2 ^ format.fractionBits + kept
  · rw [if_pos overflow, if_pos overflow]
  · have field : (format.emin + index + format.bias).toNat = index + 1 := by
      unfold emin bias
      omega
    have fraction : kept % 2 ^ format.fractionBits = kept - 2 ^ format.fractionBits := by
      rw [two_pow_precision] at small
      rw [Nat.mod_eq_sub_mod normal, Nat.mod_eq_of_lt (by omega)]
    rw [if_neg overflow, if_neg overflow, field, fraction, Nat.succ_mul]
    congr 1
    omega

/-- Packing a rounded significand adds its number to the sign bit. -/
theorem pack_normalize (mode : Mode) (negative : Bool) {index kept : ℕ} (inexact : Bool)
    (flags : Flags) (small : kept ≤ 2 ^ format.precision)
    (normal : index = 0 ∨ 2 ^ format.fractionBits ≤ kept) :
    format.pack mode negative
        (format.normalize ⟨kept, format.lowestPlace + index, inexact⟩) flags =
      format.packNumber mode negative (index * 2 ^ format.fractionBits + kept) flags := by
  have double := format.two_pow_precision
  have positive := Nat.two_pow_pos format.fractionBits
  unfold normalize
  rcases small.lt_or_eq with small | rfl
  · rw [if_neg (not_lt.mpr (bitLength_le_iff.mpr small))]
    rcases Nat.lt_or_ge kept (2 ^ format.fractionBits) with subnormal | above
    · obtain rfl : index = 0 := normal.resolve_right (not_le.mpr subnormal)
      simpa using pack_subnormal mode negative inexact flags subnormal
    · exact pack_normal mode negative inexact flags above small
  · have carried : 2 ^ format.precision / 2 = 2 ^ format.fractionBits := by omega
    have place : format.lowestPlace + index + 1 = format.lowestPlace + (index + 1 : ℕ) := by
      push_cast
      ring
    have number : index * 2 ^ format.fractionBits + 2 ^ format.precision =
        (index + 1) * 2 ^ format.fractionBits + 2 ^ format.fractionBits := by
      rw [double, two_mul, Nat.succ_mul, Nat.add_assoc]
    rw [if_pos (lt_bitLength_iff.mpr le_rfl), number]
    dsimp only
    rw [carried, place]
    exact pack_normal mode negative inexact flags le_rfl (by omega)

end LibmAudit.Format
