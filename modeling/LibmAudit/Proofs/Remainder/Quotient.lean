/-
**Quotients to nearest even.**

* `NearestDivision`: a division with remainder whose quotient is rounded to nearest even.
* `NearestDivision.unique`: there is one.
* `IsNearestEven`: an integer nearest to a real number, with ties to even.
* `NearestDivision.isNearestEven`: the quotient of such a division is the one nearest to the ratio.
-/

import LibmAudit.Proofs.Value

namespace LibmAudit

attribute [local instance (high)] instPowNat

/-- A division with remainder. The remainder is at most half the divisor, on either side of zero,
and with just a half the quotient is even. -/
structure NearestDivision (total divisor quotient : ℕ) (rest : ℤ) : Prop where
  split : (total : ℤ) = rest + quotient * divisor
  near : 2 * rest.natAbs ≤ divisor
  even : 2 * rest.natAbs = divisor → Even quotient

namespace NearestDivision

variable {total divisor quotient other : ℕ} {rest rest' : ℤ}

/-- A smaller quotient would leave more than half the divisor. -/
theorem not_lt (division : NearestDivision total divisor quotient rest)
    (division' : NearestDivision total divisor other rest') (positive : 0 < divisor) :
    ¬ quotient < other := by
  intro less
  obtain ⟨more, rfl⟩ := Nat.exists_eq_add_of_lt less
  have split := division.split.symm.trans division'.split
  have near := division.near
  have near' := division'.near
  have rests : rest - rest' = (more + 1) * divisor := by
    push_cast at split
    linarith
  -- The remainders lie a multiple of the divisor apart, so both are halves of it.
  have one : more = 0 := by
    by_contra nonzero
    have : 2 * (divisor : ℤ) ≤ (more + 1) * divisor :=
      mul_le_mul_of_nonneg_right (by omega) (Int.natCast_nonneg _)
    omega
  subst one
  have even := division.even (by omega)
  have even' := division'.even (by omega)
  exact Nat.even_add_one.mp even' even

theorem unique (division : NearestDivision total divisor quotient rest)
    (division' : NearestDivision total divisor other rest') (positive : 0 < divisor) :
    quotient = other ∧ rest = rest' := by
  have le := division.not_lt division' positive
  have ge := division'.not_lt division positive
  obtain rfl : quotient = other := by omega
  have split := division.split.symm.trans division'.split
  exact ⟨rfl, by linarith⟩

/-- Whole even multiples of the divisor can be left out before. -/
theorem add_even_mul (division : NearestDivision total divisor quotient rest) {multiple : ℕ}
    (even : Even multiple) :
    NearestDivision (multiple * divisor + total) divisor (multiple + quotient) rest := by
  refine ⟨?_, division.near, fun half => even.add (division.even half)⟩
  push_cast
  rw [division.split]
  ring

/-- The unit in which both are counted does not matter. -/
theorem mul_right (division : NearestDivision total divisor quotient rest) {unit : ℕ}
    (positive : 0 < unit) :
    NearestDivision (total * unit) (divisor * unit) quotient (rest * unit) := by
  have size : (rest * unit).natAbs = rest.natAbs * unit := by
    rw [Int.natAbs_mul, Int.natAbs_natCast]
  refine ⟨?_, ?_, fun half => division.even ?_⟩
  · push_cast
    rw [division.split]
    ring
  · rw [size, ← mul_assoc]
    exact Nat.mul_le_mul_right unit division.near
  · rw [size, ← mul_assoc] at half
    exact Nat.eq_of_mul_eq_mul_right positive half

/-- The integer division with remainder, corrected when more than half the divisor is left. -/
theorem of_mod (total : ℕ) (positive : 0 < divisor) :
    if divisor < 2 * (total % divisor) ∨
        (2 * (total % divisor) = divisor ∧ total / divisor % 2 = 1) then
      NearestDivision total divisor (total / divisor + 1) ((total % divisor : ℕ) - divisor)
    else NearestDivision total divisor (total / divisor) (total % divisor : ℕ) := by
  have split := Nat.div_add_mod' total divisor
  have below := Nat.mod_lt total positive
  have cast : (total : ℤ) = (total / divisor : ℕ) * (divisor : ℤ) + (total % divisor : ℕ) := by
    exact_mod_cast split.symm
  split
  · next up =>
    refine ⟨?_, by omega, fun half => ?_⟩
    · rw [Nat.cast_add, Nat.cast_one, add_one_mul]
      linarith
    · have odd : total / divisor % 2 = 1 := by omega
      exact Nat.even_add_one.mpr (Nat.not_even_iff.mpr odd)
  · next down =>
    refine ⟨by linarith, by omega, fun half => Nat.even_iff.mpr ?_⟩
    omega

end NearestDivision

/-- An integer nearest to a number; of two it is the even one. -/
def IsNearestEven (y : ℝ) (n : ℤ) : Prop := |y - n| ≤ 1 / 2 ∧ (|y - n| = 1 / 2 → Even n)

/-- The quotient of the division is the integer nearest to the ratio of the magnitudes, with the
sign of the ratio. -/
theorem NearestDivision.isNearestEven {total divisor quotient : ℕ} {rest : ℤ}
    (division : NearestDivision total divisor quotient rest) (positive : 0 < divisor)
    {unit : ℝ} (unit_pos : 0 < unit) (negative negative' : Bool) :
    IsNearestEven (signed negative (total * unit) / signed negative' (divisor * unit))
      (signed (negative != negative') (quotient : ℤ)) := by
  have size : (0 : ℝ) < divisor := by exact_mod_cast positive
  have split : (total : ℝ) = rest + quotient * divisor := by exact_mod_cast division.split
  have ratio : signed negative (total * unit) / signed negative' (divisor * unit) -
      (signed (negative != negative') (quotient : ℤ) : ℤ) =
        signed (negative != negative') (rest / divisor : ℝ) := by
    rw [split]
    cases negative <;> cases negative' <;>
      simp only [signed, bne_self_eq_false, Bool.false_eq_true, if_false, if_true, Bool.true_bne,
        Bool.false_bne, Bool.not_false] <;>
      push_cast <;> field_simp <;> ring
  have half : |signed (negative != negative') (rest / divisor : ℝ)| =
      (rest.natAbs : ℝ) / divisor := by
    rw [abs_signed, abs_div, abs_of_pos size, Nat.cast_natAbs, Int.cast_abs]
  unfold IsNearestEven
  rw [ratio, half]
  constructor
  · rw [div_le_div_iff₀ size two_pos]
    have near : (2 * rest.natAbs : ℝ) ≤ divisor := by exact_mod_cast division.near
    linarith
  · intro tie
    rw [div_eq_div_iff size.ne' two_ne_zero] at tie
    have halves : 2 * rest.natAbs = divisor := by
      have : (2 * rest.natAbs : ℝ) = divisor := by linarith
      exact_mod_cast this
    have even := (Int.even_coe_nat _).mpr (division.even halves)
    cases negative != negative'
    · exact even
    · exact even.neg

end LibmAudit
