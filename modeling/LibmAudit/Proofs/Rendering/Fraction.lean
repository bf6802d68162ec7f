/-
**Digits after the point.**

* `padZeros_toList`, `Format.dropTrailingZeros_toList`: texts with zeros added and left out.
* `Format.fractionDigits_spec`: a fraction field is written exactly, with less than a digit beyond
  its bits.
-/

import LibmAudit.Format.Rendering
import LibmAudit.Proofs.Pattern
import LibmAudit.Proofs.Text.Digits

namespace LibmAudit

attribute [local instance (high)] instPowNat

theorem padZeros_toList (width : ℕ) (digits : String) :
    (padZeros width digits).toList =
      List.replicate (width - digits.length) '0' ++ digits.toList := by
  simp [padZeros]

namespace Format

/-- The digits that are left and the zeros that are left out make up the text. -/
theorem dropTrailingZeros_toList (digits : String) :
    ∃ zeros, digits.toList = (dropTrailingZeros digits).toList ++ List.replicate zeros '0' := by
  have last : ∀ char ∈ digits.toList.rtakeWhile (· == '0'), char = '0' := by
    intro char member
    simpa using List.mem_rtakeWhile_imp member
  have kept : (dropTrailingZeros digits).toList = digits.toList.rdropWhile (· == '0') := by
    simp [dropTrailingZeros, List.rdropWhile]
  refine ⟨(digits.toList.rtakeWhile (· == '0')).length, ?_⟩
  rw [kept, ← List.eq_replicate_of_mem last, List.rdropWhile_append_rtakeWhile]

variable (format : Format)

/-- The digits of a fraction field, before its trailing zeros are left out. -/
theorem paddedDigits_spec {fraction : ℕ} (small : fraction < 2 ^ format.fractionBits) {count : ℕ}
    (enough : format.fractionBits ≤ 4 * count) :
    (padZeros count (hexDigits (fraction * 2 ^ (4 * count - format.fractionBits)))).length =
      count ∧
    readHex (padZeros count (hexDigits (fraction * 2 ^ (4 * count - format.fractionBits)))).toList =
      fraction * 2 ^ (4 * count - format.fractionBits) := by
  have below : fraction * 2 ^ (4 * count - format.fractionBits) < 16 ^ count := by
    have split : 16 ^ count = 2 ^ format.fractionBits * 2 ^ (4 * count - format.fractionBits) := by
      rw [← pow_add, Nat.add_sub_cancel' enough, pow_mul]
      rfl
    rw [split]
    exact Nat.mul_lt_mul_of_pos_right small (Nat.two_pow_pos _)
  have width := format.fractionBits_pos
  have length := (Nat.length_toDigits_le_iff (by decide) (show 0 < count by omega)).mpr below
  constructor
  · rw [← String.length_toList, padZeros_toList, hexDigits, List.length_append,
      List.length_replicate, String.toList_ofList, String.length_ofList]
    omega
  · rw [padZeros_toList, readHex_append, readHex_replicate_zero, Nat.zero_mul, Nat.zero_add,
      hexDigits, String.toList_ofList, readHex_toDigits]

/-- A fraction field is written exactly, and with less than a digit beyond its bits. -/
theorem fractionDigits_spec {fraction : ℕ} (small : fraction < 2 ^ format.fractionBits) :
    readHex (format.fractionDigits fraction).toList * 2 ^ format.fractionBits =
        fraction * 16 ^ (format.fractionDigits fraction).toList.length ∧
      4 * (format.fractionDigits fraction).toList.length ≤ format.fractionBits + 3 ∧
      ∀ char ∈ (format.fractionDigits fraction).toList,
        ∃ digit < 16, char = Nat.digitChar digit := by
  have enough : format.fractionBits ≤ 4 * ((format.fractionBits + 3) / 4) := by omega
  obtain ⟨length, value⟩ := format.paddedDigits_spec small enough
  unfold fractionDigits
  dsimp only
  set count := (format.fractionBits + 3) / 4 with count_eq
  set padded := padZeros count (hexDigits (fraction * 2 ^ (4 * count - format.fractionBits)))
    with padded_eq
  obtain ⟨zeros, split⟩ := dropTrailingZeros_toList padded
  have total : (dropTrailingZeros padded).toList.length + zeros = count := by
    rw [← length, ← String.length_toList, split, List.length_append, List.length_replicate]
  rw [split, readHex_append, readHex_replicate_zero, List.length_replicate, Nat.add_zero] at value
  refine ⟨?_, by omega, fun char member => ?_⟩
  · have whole : 16 ^ (dropTrailingZeros padded).toList.length * 16 ^ zeros =
        2 ^ (4 * count - format.fractionBits) * 2 ^ format.fractionBits := by
      rw [← pow_add, ← pow_add, total, Nat.sub_add_cancel enough, pow_mul]
      rfl
    refine Nat.eq_of_mul_eq_mul_right (show 0 < 16 ^ zeros by positivity) ?_
    rw [mul_right_comm, value, mul_assoc, ← whole, mul_assoc]
  · have inside : char ∈ padded.toList := by
      rw [split]
      exact List.mem_append_left _ member
    rw [padded_eq, padZeros_toList, hexDigits, String.toList_ofList] at inside
    rcases List.mem_append.mp inside with zero | digit
    · exact ⟨0, by decide, List.eq_of_mem_replicate zero⟩
    · exact Text.mem_toDigits (by decide) digit

end Format

end LibmAudit
