/-
**Roots are rounded once.**

The significand is moved up by a number of places that makes the exponent a multiple of the degree.
The integer root has the leading digits of the root then, more of them than a format has, and the
sticky bit says whether its power is another number.

* `Truncation.exists_ofRoot`: the number of places, and the digits that it gives.
* `StandsFor.of_floorRoot`: the integer root stands for the root.
* `Truncation.ofRoot_determines`: its digits are enough to round the root into a format.
* `Operation.finish_root`: a root that is cut and rounded is the root itself, rounded.
-/

import LibmAudit.Multiprecision.Arithmetic
import LibmAudit.Proofs.Enclosure.Root
import LibmAudit.Proofs.Multiprecision.Truncation

namespace LibmAudit

attribute [local instance (high)] instPowNat

variable {degree significand : ℕ} {exponent : ℤ} {root : ℝ}

/-! ## The integer root -/

/-- The digits of a root are those of an integer root of a significand with enough digits. -/
theorem Truncation.exists_ofRoot (positive : 0 < degree) (significand : ℕ) (exponent : ℤ)
    (digits : ℕ) :
    ∃ (shift : ℕ) (place : ℤ), degree * digits ≤ bitLength significand + shift ∧
      exponent = degree * place + shift ∧
      ofRoot degree significand exponent digits =
        ⟨floorRoot degree (significand * 2 ^ shift), place,
          floorRoot degree (significand * 2 ^ shift) ^ degree != significand * 2 ^ shift⟩ := by
  set least := degree * digits - bitLength significand with least_eq
  have nonzero : (degree : ℤ) ≠ 0 := Int.natCast_ne_zero.mpr positive.ne'
  have split := Int.mul_ediv_add_emod (exponent - least) degree
  have rest : (((exponent - least) % degree).toNat : ℤ) = (exponent - least) % degree :=
    Int.toNat_of_nonneg (Int.emod_nonneg _ nonzero)
  have multiple : exponent - (least + ((exponent - least) % degree).toNat : ℕ) =
      degree * ((exponent - least) / degree) := by
    push_cast
    rw [rest]
    linarith
  refine ⟨least + ((exponent - least) % degree).toNat, (exponent - least) / degree, by omega,
    by linarith, ?_⟩
  have place : (exponent - (least + ((exponent - least) % degree).toNat : ℕ)) / degree =
      (exponent - least) / degree := by
    rw [multiple, Int.mul_ediv_cancel_left _ nonzero]
  unfold ofRoot
  dsimp only
  rw [← least_eq, place]

/-- The integer root of a significand stands for the root, in units of its last place. -/
theorem StandsFor.of_floorRoot (positive : 0 < degree) (above : 0 < root) {scaled : ℕ} {place : ℤ}
    (power : root ^ degree = scaled * 2 ^ (degree * place)) :
    StandsFor (floorRoot degree scaled) place (floorRoot degree scaled ^ degree != scaled)
      root := by
  have unit : (0 : ℝ) < 2 ^ place := by positivity
  have unitPower : ((2 : ℝ) ^ place) ^ degree = 2 ^ (degree * place) := by
    rw [← zpow_natCast, ← zpow_mul, mul_comm]
  have compare (n : ℕ) : (n * 2 ^ place : ℝ) ^ degree = (n ^ degree : ℕ) * 2 ^ (degree * place) := by
    rw [mul_pow, unitPower]
    push_cast
    rfl
  have below := floorRoot_pow_le positive scaled
  by_cases exact : floorRoot degree scaled ^ degree = scaled
  · rw [StandsFor, if_neg (by simpa using exact)]
    refine (pow_left_inj₀ above.le (by positivity) positive.ne').mp ?_
    rw [compare, exact, power]
  · have less : floorRoot degree scaled ^ degree < scaled := lt_of_le_of_ne below exact
    have next := lt_floorRoot_succ_pow positive scaled
    rw [StandsFor, if_pos (by simpa using exact)]
    constructor
    · refine lt_of_pow_lt_pow_left₀ degree above.le ?_
      rw [compare, power]
      exact mul_lt_mul_of_pos_right (by exact_mod_cast less) (by positivity)
    · refine lt_of_pow_lt_pow_left₀ degree (by positivity) ?_
      have compared := compare (floorRoot degree scaled + 1)
      push_cast at compared
      rw [compared, power]
      exact mul_lt_mul_of_pos_right (by exact_mod_cast next) (by positivity)

/-- An integer root has as many digits as its power has groups of them. -/
theorem lt_bitLength_floorRoot (positive : 0 < degree) {digits scaled : ℕ} (nonzero : scaled ≠ 0)
    (enough : degree * (digits + 1) ≤ bitLength scaled) :
    digits < bitLength (floorRoot degree scaled) := by
  rw [lt_bitLength_iff]
  by_contra short
  have small : (floorRoot degree scaled + 1) ^ degree ≤ 2 ^ (digits * degree) := by
    rw [pow_mul]
    exact Nat.pow_le_pow_left (by omega) degree
  have large : 2 ^ (digits * degree) ≤ scaled := by
    refine le_trans (Nat.pow_le_pow_right two_pos ?_) (two_pow_le_of_bitLength nonzero)
    rw [Nat.mul_succ, Nat.mul_comm] at enough
    omega
  exact absurd (lt_floorRoot_succ_pow positive scaled) (not_lt.mpr (small.trans large))

/-! ## Rounding into the format -/

/-- The digits that are computed of a root are enough to round it. -/
theorem Truncation.ofRoot_determines (format : Format) (positive : 0 < degree)
    (nonzero : significand ≠ 0) (above : 0 < root)
    (power : root ^ degree = significand * 2 ^ exponent) :
    (ofRoot degree significand exponent (format.precision + 2 + 2)).Determines format root := by
  obtain ⟨shift, place, enough, split, written⟩ :=
    exists_ofRoot positive significand exponent (format.precision + 2 + 2)
  have scaled : significand * 2 ^ shift ≠ 0 := Nat.mul_ne_zero nonzero (Nat.two_pow_pos _).ne'
  have scaledPower : root ^ degree =
      (significand * 2 ^ shift : ℕ) * 2 ^ (degree * place) := by
    rw [power, split, add_comm, zpow_add₀ two_ne_zero, zpow_natCast]
    push_cast
    ring
  have long : format.precision + 2 + 1 <
      bitLength (floorRoot degree (significand * 2 ^ shift)) := by
    refine lt_bitLength_floorRoot positive scaled ?_
    rwa [bitLength_mul_two_pow nonzero]
  rw [written]
  refine ⟨fun zero => ?_, .of_floorRoot positive above scaledPower,
    Or.inl ((Nat.le_succ _).trans long.le)⟩
  dsimp only at zero
  rw [zero, bitLength_zero] at long
  omega

/-- A root in the exponent range is cut and rounded as the root itself. -/
theorem Operation.finish_root {format : Format} (mode : Mode) (positive : 0 < degree)
    (nonzero : significand ≠ 0) (above : 0 < root)
    (power : root ^ degree = significand * 2 ^ exponent)
    (lowest : -exponentLimit ≤ Int.log 2 root) (highest : Int.log 2 root < exponentLimit)
    (negative : Bool) :
    finish format mode
        ((Outcome.magnitude negative (Truncation.ofRoot degree significand exponent)).round
          (format.precision + 2) .towardZero) = .ok (format.roundReal mode negative root) :=
  finish_of_determines mode (Truncation.ofRoot_determines format positive nonzero above power)
    lowest highest negative

end LibmAudit
