/-
**Integer roots.**

The steps towards a root start above it, and none of them goes below it. Where they stop to descend
they have arrived.

* `lt_rootStep_succ_pow`: a step from any guess is not below the integer part of the root.
* `pow_le_of_le_rootStep`: a guess from which the step does not descend is not above it.
* `descendToRoot_pow_le`, `lt_descendToRoot_succ_pow`: the guess that is left is that integer.
* `floorRoot_pow_le`, `lt_floorRoot_succ_pow`: the largest integer with a power up to a number.
-/

import LibmAudit.Enclosure.Root
import Mathlib

namespace LibmAudit

attribute [local instance (high)] instPowNat

variable {degree n guess : ℕ}

/-! ## One step -/

/-- No step goes below the root: the mean of numbers is not below their geometric mean. -/
theorem lt_rootStep_succ_pow (positive : 0 < degree) (nonzero : guess ≠ 0) :
    n < (rootStep degree n guess + 1) ^ degree := by
  obtain ⟨count, rfl⟩ := Nat.exists_eq_add_of_lt positive
  have step : rootStep (0 + count + 1) n guess =
      (n / guess ^ count + count * guess) / (count + 1) := by
    unfold rootStep
    rw [Nat.zero_add, Nat.add_sub_cancel, Nat.add_comm (n / _)]
  rw [step, Nat.zero_add]
  exact Nat.nthRoot.lt_pow_go_succ_aux nonzero

/-- A guess from which the step does not descend is not above the root. -/
theorem pow_le_of_le_rootStep (positive : 0 < degree) (stays : guess ≤ rootStep degree n guess) :
    guess ^ degree ≤ n := by
  obtain ⟨count, rfl⟩ := Nat.exists_eq_add_of_lt positive
  unfold rootStep at stays
  rw [Nat.zero_add, Nat.add_sub_cancel, Nat.le_div_iff_mul_le (Nat.succ_pos count), Nat.mul_succ,
    Nat.mul_comm guess count] at stays
  have quotient : guess ≤ n / guess ^ count := by omega
  have product := Nat.mul_le_of_le_div _ _ _ quotient
  rwa [Nat.zero_add, pow_succ']

/-! ## The descent -/

theorem rootStep_ne_zero (positive : 0 < degree) (some : n ≠ 0) (nonzero : guess ≠ 0) :
    rootStep degree n guess ≠ 0 := by
  intro zero
  have above := lt_rootStep_succ_pow (n := n) positive nonzero
  rw [zero, Nat.zero_add, one_pow] at above
  omega

/-- Where the steps stop the power is not above the number. -/
theorem descendToRoot_pow_le (positive : 0 < degree) (guess : ℕ) :
    descendToRoot degree n guess ^ degree ≤ n := by
  induction guess using descendToRoot.induct degree n with
  | case1 guess descends ih =>
    rw [descendToRoot, if_pos descends]
    exact ih
  | case2 guess stays =>
    rw [descendToRoot, if_neg stays]
    exact pow_le_of_le_rootStep positive (not_lt.mp stays)

/-- From a guess that is not below the root the steps do not go below it. -/
theorem lt_descendToRoot_succ_pow (positive : 0 < degree) (some : n ≠ 0) (nonzero : guess ≠ 0)
    (above : n < (guess + 1) ^ degree) : n < (descendToRoot degree n guess + 1) ^ degree := by
  induction guess using descendToRoot.induct degree n with
  | case1 guess descends ih =>
    rw [descendToRoot, if_pos descends]
    exact ih (rootStep_ne_zero positive some nonzero) (lt_rootStep_succ_pow positive nonzero)
  | case2 guess stays =>
    rw [descendToRoot, if_neg stays]
    exact above

/-! ## The integer part of a root -/

theorem floorRoot_pow_le (positive : 0 < degree) (n : ℕ) : floorRoot degree n ^ degree ≤ n := by
  unfold floorRoot
  by_cases zero : n = 0
  · rw [if_pos zero, zero_pow positive.ne']
    exact Nat.zero_le n
  · rw [if_neg zero]
    exact descendToRoot_pow_le positive _

theorem lt_floorRoot_succ_pow (positive : 0 < degree) (n : ℕ) :
    n < (floorRoot degree n + 1) ^ degree := by
  unfold floorRoot
  by_cases zero : n = 0
  · rw [if_pos zero, zero, Nat.zero_add, one_pow]
    exact one_pos
  · -- The first guess is a power of two whose power has more digits than the number.
    have digits : bitLength n ≤ (bitLength n + degree - 1) / degree * degree := by
      have split := Nat.div_add_mod' (bitLength n + degree - 1) degree
      have below := Nat.mod_lt (bitLength n + degree - 1) positive
      omega
    have start : n < (2 ^ ((bitLength n + degree - 1) / degree) + 1) ^ degree :=
      calc n < 2 ^ bitLength n := lt_two_pow_bitLength n
        _ ≤ 2 ^ ((bitLength n + degree - 1) / degree * degree) :=
          Nat.pow_le_pow_right two_pos digits
        _ = (2 ^ ((bitLength n + degree - 1) / degree)) ^ degree := pow_mul 2 _ _
        _ ≤ (2 ^ ((bitLength n + degree - 1) / degree) + 1) ^ degree :=
          Nat.pow_le_pow_left (Nat.le_succ _) degree
    rw [if_neg zero]
    exact lt_descendToRoot_succ_pow positive zero (Nat.two_pow_pos _).ne' start

end LibmAudit
