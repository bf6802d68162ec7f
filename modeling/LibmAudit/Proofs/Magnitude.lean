/-
**Magnitudes by number.**

A pattern without its sign bit numbers the magnitudes of the format in their order. The numbering
goes on above the largest finite value as if exponents had no upper bound: infinities have the
number of `2 ^ (emax + 1)`.

* `Format.magnitudeAt`: the magnitude with a number.
* `Format.magnitudeAt_add`: the numbers of the multiples of a power of two. A significand that has
  grown by a carry to `2 ^ precision` is one of them, so a carry needs no case of its own.
* `Format.magnitudeAt_strictMono`: larger numbers stand for larger magnitudes.
* `Format.magnitudeAt_infinityOrdinal`: where the finite magnitudes end.
-/

import LibmAudit.Format.Pattern
import Mathlib

namespace LibmAudit.Format

-- Powers are the built-in ones, whatever else is imported.
attribute [local instance (high)] instPowNat

/-- Two is a numeral in every ring. The definitions of all modules share this proof of it. -/
instance twoAtLeastTwo : Nat.AtLeastTwo 2 := ⟨le_rfl⟩

/-- The significand of the magnitude with a number. -/
def significandAt (format : Format) (ordinal : ℕ) : ℕ :=
  if ordinal / 2 ^ format.fractionBits = 0 then ordinal % 2 ^ format.fractionBits
  else 2 ^ format.fractionBits + ordinal % 2 ^ format.fractionBits

/-- How many places above the lowest one the magnitude with a number has its last place. -/
def placeIndexAt (format : Format) (ordinal : ℕ) : ℕ := ordinal / 2 ^ format.fractionBits - 1

/-- The exponent of the last place of the magnitude with a number. -/
def placeAt (format : Format) (ordinal : ℕ) : ℤ :=
  format.lowestPlace + format.placeIndexAt ordinal

/-- The magnitude with a number. -/
noncomputable def magnitudeAt (format : Format) (ordinal : ℕ) : ℝ :=
  format.significandAt ordinal * 2 ^ format.placeAt ordinal

/-- The number of the infinities. -/
def infinityOrdinal (format : Format) : ℕ := format.exponentMask * 2 ^ format.fractionBits

variable (format : Format)

/-! ## Widths -/

theorem two_pow_precision : 2 ^ format.precision = 2 * 2 ^ format.fractionBits := by
  rw [← format.fractionBits_add_one, pow_succ, mul_comm]

theorem fractionBits_pos : 1 ≤ format.fractionBits := by
  have := format.two_le_precision
  have := format.fractionBits_add_one
  omega

theorem totalBits_eq : format.totalBits = format.exponentBits + format.fractionBits + 1 := by
  have := format.precision_add_exponentBits
  have := format.fractionBits_add_one
  omega

theorem two_pow_exponentBits : 2 ^ format.exponentBits = 2 * 2 ^ (format.exponentBits - 1) := by
  rw [← pow_succ', Nat.sub_add_cancel (le_trans (by decide) format.two_le_exponentBits)]

theorem two_le_two_pow_pred : 2 ≤ 2 ^ (format.exponentBits - 1) := by
  have := format.two_le_exponentBits
  exact Nat.pow_le_pow_right (n := 2) (i := 1) (by decide) (by omega)

theorem exponentMask_eq : (format.exponentMask : ℤ) = 2 * format.emax + 1 := by
  have := format.two_pow_exponentBits
  have := format.two_le_two_pow_pred
  unfold exponentMask emax
  omega

theorem one_le_emax : 1 ≤ format.emax := by
  have := format.two_le_two_pow_pred
  unfold emax
  omega

theorem emin_le_emax : format.emin ≤ format.emax := by
  have := format.one_le_emax
  unfold emin
  omega

/-! ## Significands and places -/

theorem significandAt_lt (ordinal : ℕ) : format.significandAt ordinal < 2 ^ format.precision := by
  have := Nat.mod_lt ordinal (Nat.two_pow_pos format.fractionBits)
  rw [two_pow_precision]
  unfold significandAt
  split <;> omega

/-- A magnitude is above the lowest place only if its significand is normal. -/
theorem normal_or_lowest (ordinal : ℕ) :
    format.placeIndexAt ordinal = 0 ∨
      2 ^ format.fractionBits ≤ format.significandAt ordinal := by
  unfold placeIndexAt significandAt
  split
  · next subnormal => exact Or.inl (by omega)
  · exact Or.inr (by omega)

/-- Every number is that of its significand at its place. -/
theorem placeIndexAt_mul_add (ordinal : ℕ) :
    format.placeIndexAt ordinal * 2 ^ format.fractionBits + format.significandAt ordinal =
      ordinal := by
  have split := Nat.div_add_mod' ordinal (2 ^ format.fractionBits)
  unfold placeIndexAt significandAt
  by_cases subnormal : ordinal / 2 ^ format.fractionBits = 0
  · rw [if_pos subnormal, subnormal]
    rw [subnormal] at split
    omega
  · rw [if_neg subnormal, Nat.sub_mul]
    have := Nat.le_mul_of_pos_left (2 ^ format.fractionBits) (Nat.pos_of_ne_zero subnormal)
    omega

/-- The magnitudes at the place with an index are the multiples of its power of two. -/
theorem magnitudeAt_add {index kept : ℕ} (small : kept ≤ 2 ^ format.precision)
    (normal : index = 0 ∨ 2 ^ format.fractionBits ≤ kept) :
    format.magnitudeAt (index * 2 ^ format.fractionBits + kept) =
      kept * 2 ^ (format.lowestPlace + index) := by
  have positive := Nat.two_pow_pos format.fractionBits
  rw [two_pow_precision] at small
  have quotient : (index * 2 ^ format.fractionBits + kept) / 2 ^ format.fractionBits =
      index + kept / 2 ^ format.fractionBits := by
    rw [add_comm, Nat.add_mul_div_right _ _ positive, add_comm]
  have remainder : (index * 2 ^ format.fractionBits + kept) % 2 ^ format.fractionBits =
      kept % 2 ^ format.fractionBits := Nat.mul_add_mod_self_right ..
  unfold magnitudeAt significandAt placeAt placeIndexAt
  rw [quotient, remainder]
  rcases Nat.lt_or_ge kept (2 ^ format.fractionBits) with subnormal | atLeast
  · obtain rfl : index = 0 := normal.resolve_right (by omega)
    simp [Nat.div_eq_of_lt subnormal, Nat.mod_eq_of_lt subnormal]
  · rcases Nat.lt_or_ge kept (2 * 2 ^ format.fractionBits) with below | carried
    · have one : kept / 2 ^ format.fractionBits = 1 := Nat.div_eq_of_lt_le (by omega) (by omega)
      have rest : 2 ^ format.fractionBits + kept % 2 ^ format.fractionBits = kept := by
        have := Nat.div_add_mod' kept (2 ^ format.fractionBits)
        rw [one] at this
        omega
      simp [one, rest]
    · obtain rfl : kept = 2 * 2 ^ format.fractionBits := by omega
      have two : 2 * 2 ^ format.fractionBits / 2 ^ format.fractionBits = 2 :=
        Nat.mul_div_cancel _ positive
      have next : format.lowestPlace + ((index + 2 - 1 : ℕ) : ℤ) =
          1 + (format.lowestPlace + index) := by omega
      rw [two, if_neg (by omega), Nat.mul_mod_left, next, zpow_add₀ two_ne_zero]
      push_cast
      ring

/-! ## Order -/

/-- The next magnitude is one unit in the last place away. -/
theorem magnitudeAt_succ (ordinal : ℕ) :
    format.magnitudeAt (ordinal + 1) = format.magnitudeAt ordinal + 2 ^ format.placeAt ordinal := by
  have small := format.significandAt_lt ordinal
  have normal : format.placeIndexAt ordinal = 0 ∨
      2 ^ format.fractionBits ≤ format.significandAt ordinal + 1 :=
    (format.normal_or_lowest ordinal).imp_right fun normal => normal.trans (Nat.le_succ _)
  have next := format.magnitudeAt_add (show format.significandAt ordinal + 1 ≤ _ from small) normal
  rw [← add_assoc, placeIndexAt_mul_add] at next
  rw [next]
  unfold magnitudeAt placeAt
  push_cast
  ring

theorem magnitudeAt_strictMono : StrictMono format.magnitudeAt := by
  refine strictMono_nat_of_lt_succ fun ordinal => ?_
  rw [magnitudeAt_succ]
  exact lt_add_of_pos_right _ (by positivity)

theorem magnitudeAt_zero : format.magnitudeAt 0 = 0 := by
  simp [magnitudeAt, significandAt]

theorem magnitudeAt_nonneg (ordinal : ℕ) : 0 ≤ format.magnitudeAt ordinal := by
  unfold magnitudeAt
  positivity

theorem magnitudeAt_pos {ordinal : ℕ} (positive : 0 < ordinal) :
    0 < format.magnitudeAt ordinal := by
  rw [← format.magnitudeAt_zero]
  exact format.magnitudeAt_strictMono positive

/-! ## The end of the range -/

/-- Beyond the largest finite value comes the power of two that infinities take the place of. -/
theorem magnitudeAt_infinityOrdinal :
    format.magnitudeAt format.infinityOrdinal = 2 ^ (format.emax + 1) := by
  have mask := format.exponentMask_eq
  have range := format.one_le_emax
  have index : format.infinityOrdinal =
      (format.exponentMask - 1) * 2 ^ format.fractionBits + 2 ^ format.fractionBits := by
    unfold infinityOrdinal
    rw [← Nat.succ_mul, Nat.succ_eq_add_one, Nat.sub_add_cancel (by omega)]
  have place : (format.fractionBits : ℤ) + (format.lowestPlace + (format.exponentMask - 1 : ℕ)) =
      format.emax + 1 := by
    unfold lowestPlace emin
    omega
  rw [index, magnitudeAt_add _ (by rw [two_pow_precision]; omega) (Or.inr le_rfl), ← place,
    zpow_add₀ two_ne_zero (format.fractionBits : ℤ), zpow_natCast, Nat.cast_pow, Nat.cast_ofNat]

/-- One is the value of a finite magnitude. -/
theorem exists_magnitudeAt_eq_one :
    ∃ ordinal, 0 < ordinal ∧ ordinal < format.infinityOrdinal ∧ format.magnitudeAt ordinal = 1 := by
  have range := format.one_le_emax
  have mask := format.exponentMask_eq
  have positive := Nat.two_pow_pos format.fractionBits
  refine ⟨(format.emax - 1).toNat * 2 ^ format.fractionBits + 2 ^ format.fractionBits, by omega,
    ?_, ?_⟩
  · rw [← Nat.succ_mul]
    exact Nat.mul_lt_mul_of_pos_right (by omega) positive
  · have place : (format.fractionBits : ℤ) + (format.lowestPlace + (format.emax - 1).toNat) =
        0 := by
      unfold lowestPlace emin
      omega
    rw [magnitudeAt_add _ (by rw [two_pow_precision]; omega) (Or.inr le_rfl), Nat.cast_pow,
      Nat.cast_ofNat, ← zpow_natCast, ← zpow_add₀ two_ne_zero, place, zpow_zero]

end LibmAudit.Format
