/-
**Magnitudes in units of the lowest place.**

Every magnitude of a format is a multiple of the smallest one. The multiples form a grid that gets
coarser with the exponent. It is closed under what a division with remainder does step by step.

* `Format.unitsAt`: the multiple for the magnitude with a number.
* `Format.OnGrid`: the multiples that stand for a magnitude, whatever the largest exponent.
* `Format.OnGrid.mul_two_pow`, `half`: doubling, and halving from twice the smallest normal one on.
* `Format.OnGrid.sub`: the difference of two magnitudes of which neither is above twice the other.
* `Format.OnGrid.mod`: the remainder of a division.
-/

import LibmAudit.Proofs.Magnitude

namespace LibmAudit.Format

attribute [local instance (high)] instPowNat

/-- The magnitude with a number, in units of the lowest place. -/
def unitsAt (format : Format) (ordinal : ℕ) : ℕ :=
  format.significandAt ordinal * 2 ^ format.placeIndexAt ordinal

/-- A number of units that makes a magnitude. -/
def OnGrid (format : Format) (units : ℕ) : Prop := ∃ ordinal, format.unitsAt ordinal = units

variable (format : Format)

/-! ## Numbers and units -/

theorem magnitudeAt_eq_unitsAt (ordinal : ℕ) :
    format.magnitudeAt ordinal = format.unitsAt ordinal * 2 ^ format.lowestPlace := by
  unfold magnitudeAt unitsAt placeAt
  rw [zpow_add₀ two_ne_zero, zpow_natCast]
  push_cast
  ring

theorem unitsAt_strictMono : StrictMono format.unitsAt := by
  intro first second less
  have magnitudes := format.magnitudeAt_strictMono less
  rw [magnitudeAt_eq_unitsAt, magnitudeAt_eq_unitsAt,
    mul_lt_mul_iff_left₀ (by positivity)] at magnitudes
  exact_mod_cast magnitudes

theorem unitsAt_zero : format.unitsAt 0 = 0 := by
  simp [unitsAt, significandAt]

theorem unitsAt_eq_zero_iff {ordinal : ℕ} : format.unitsAt ordinal = 0 ↔ ordinal = 0 := by
  rw [← format.unitsAt_zero, format.unitsAt_strictMono.injective.eq_iff, format.unitsAt_zero]

theorem unitsAt_pos_iff {ordinal : ℕ} : 0 < format.unitsAt ordinal ↔ 0 < ordinal := by
  rw [Nat.pos_iff_ne_zero, Ne, unitsAt_eq_zero_iff, ← Ne, ← Nat.pos_iff_ne_zero]

/-- A significand at a place makes a magnitude, also when it could be moved to a lower place. -/
theorem onGrid_mul_two_pow {kept : ℕ} (small : kept ≤ 2 ^ format.precision) (index : ℕ) :
    format.OnGrid (kept * 2 ^ index) := by
  induction index generalizing kept with
  | zero =>
    refine ⟨0 * 2 ^ format.fractionBits + kept, ?_⟩
    have number := format.magnitudeAt_add small (Or.inl (rfl : 0 = 0))
    rw [magnitudeAt_eq_unitsAt, Nat.cast_zero, add_zero, mul_left_inj' (by positivity)] at number
    rw [pow_zero, mul_one]
    exact_mod_cast number
  | succ index ih =>
    rcases Nat.lt_or_ge kept (2 ^ format.fractionBits) with subnormal | normal
    · have double := ih (show 2 * kept ≤ 2 ^ format.precision by
        rw [two_pow_precision]; omega)
      rwa [mul_comm 2 kept, mul_assoc, ← pow_succ'] at double
    · refine ⟨(index + 1) * 2 ^ format.fractionBits + kept, ?_⟩
      have number := format.magnitudeAt_add small (show index + 1 = 0 ∨ _ from Or.inr normal)
      rw [magnitudeAt_eq_unitsAt, add_comm format.lowestPlace, zpow_add₀ two_ne_zero,
        zpow_natCast, ← mul_assoc, mul_left_inj' (by positivity)] at number
      exact_mod_cast number

/-! ## Doubling and halving -/

variable {format} {first second : ℕ}

theorem OnGrid.mul_two_pow (grid : format.OnGrid first) (count : ℕ) :
    format.OnGrid (first * 2 ^ count) := by
  obtain ⟨ordinal, rfl⟩ := grid
  rw [unitsAt, mul_assoc, ← pow_add]
  exact format.onGrid_mul_two_pow (format.significandAt_lt ordinal).le _

/-- From twice the smallest normal magnitude on, the last place is not the lowest one. -/
theorem OnGrid.half (grid : format.OnGrid first) (large : 2 * 2 ^ format.fractionBits ≤ first) :
    2 ∣ first ∧ format.OnGrid (first / 2) := by
  obtain ⟨ordinal, rfl⟩ := grid
  have small := format.significandAt_lt ordinal
  rw [two_pow_precision] at small
  unfold unitsAt at large ⊢
  rcases Nat.eq_zero_or_pos (format.placeIndexAt ordinal) with lowest | above
  · rw [lowest, pow_zero, mul_one] at large
    omega
  · obtain ⟨index, place⟩ := Nat.exists_eq_succ_of_ne_zero above.ne'
    have double : format.significandAt ordinal * 2 ^ format.placeIndexAt ordinal =
        2 * (format.significandAt ordinal * 2 ^ index) := by
      rw [place, Nat.succ_eq_add_one, pow_succ]
      ring
    rw [double, Nat.mul_div_cancel_left _ two_pos]
    exact ⟨dvd_mul_right _ _, format.onGrid_mul_two_pow (format.significandAt_lt ordinal).le _⟩

/-! ## Differences and remainders -/

/-- A multiple of the last place of a magnitude that is not above it makes a magnitude. -/
theorem onGrid_of_multiple {ordinal : ℕ} (multiple : ℕ)
    (le : multiple * 2 ^ format.placeIndexAt ordinal ≤ format.unitsAt ordinal) :
    format.OnGrid (multiple * 2 ^ format.placeIndexAt ordinal) := by
  have small := Nat.le_of_mul_le_mul_right le (Nat.two_pow_pos _)
  exact format.onGrid_mul_two_pow (small.trans (format.significandAt_lt ordinal).le) _

variable (format) in
theorem placeIndexAt_mono {first second : ℕ} (le : first ≤ second) :
    format.placeIndexAt first ≤ format.placeIndexAt second :=
  Nat.sub_le_sub_right (Nat.div_le_div_right le) 1

variable (format) in
/-- The larger magnitude is a multiple of the last place of the smaller one. -/
theorem exists_multiple {first second : ℕ} (le : first ≤ second) :
    ∃ multiple, format.unitsAt second = multiple * 2 ^ format.placeIndexAt first := by
  have places := format.placeIndexAt_mono le
  refine ⟨format.significandAt second *
    2 ^ (format.placeIndexAt second - format.placeIndexAt first), ?_⟩
  rw [mul_assoc, ← pow_add, Nat.sub_add_cancel places, unitsAt]

/-- The difference of two magnitudes is one, if the larger is at most twice the smaller. -/
theorem OnGrid.sub (grid : format.OnGrid first) (grid' : format.OnGrid second)
    (le : second ≤ first) (close : first ≤ 2 * second) : format.OnGrid (first - second) := by
  obtain ⟨larger, rfl⟩ := grid
  obtain ⟨smaller, rfl⟩ := grid'
  have order := format.unitsAt_strictMono.le_iff_le.mp le
  obtain ⟨multiple, units⟩ := format.exists_multiple order
  have difference : format.unitsAt larger - format.unitsAt smaller =
      (multiple - format.significandAt smaller) * 2 ^ format.placeIndexAt smaller := by
    rw [units, Nat.sub_mul, unitsAt]
  rw [difference]
  refine onGrid_of_multiple _ ?_
  rw [← difference]
  omega

/-- The remainder of a division of magnitudes is a magnitude. -/
theorem OnGrid.mod (grid : format.OnGrid first) (grid' : format.OnGrid second) :
    format.OnGrid (first % second) := by
  rcases Nat.lt_or_ge first second with less | ge
  · rwa [Nat.mod_eq_of_lt less]
  · obtain ⟨dividend, rfl⟩ := grid
    obtain ⟨divisor, rfl⟩ := grid'
    have order := format.unitsAt_strictMono.le_iff_le.mp ge
    obtain ⟨multiple, units⟩ := format.exists_multiple order
    have remainder : format.unitsAt dividend % format.unitsAt divisor =
        multiple % format.significandAt divisor * 2 ^ format.placeIndexAt divisor := by
      rw [units, unitsAt, Nat.mul_mod_mul_right]
    rcases Nat.eq_zero_or_pos (format.unitsAt divisor) with zero | positive
    · rw [zero, Nat.mod_zero]
      exact ⟨dividend, rfl⟩
    · rw [remainder]
      refine onGrid_of_multiple _ ?_
      rw [← remainder]
      exact (Nat.mod_lt _ positive).le

end LibmAudit.Format
