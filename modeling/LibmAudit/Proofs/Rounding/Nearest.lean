/-
**Rounding to nearest.**

* `Format.TakesNearer`: one of the two magnitudes around a number is taken, the closer one.
* `Format.ordinalOf_nearestEven`, `ordinalOf_nearestAway`: the nearest modes do that, and differ
  in the one they take from the middle.
* `Format.TakesNearer.nearest`: no magnitude is closer, and one that is as close loses the tie.
* `Format.TakesNearer.infinityOrdinal_le_iff`: the numbers that are rounded to an infinity.
* `Format.roundReal_nearestEven`, `roundReal_nearestAway`: rounding into the format.
-/

import LibmAudit.Proofs.Rounding.Neighbours

namespace LibmAudit.Format

attribute [local instance (high)] instPowNat

/-- Of the two magnitudes around a number the closer one is taken. One that is taken from the middle
has a number that wins ties. -/
def TakesNearer (format : Format) (winsTie : ℕ → Prop) (x : ℝ) (ordinal : ℕ) : Prop :=
  let lower := format.floorOrdinal x
  let left := x - format.magnitudeAt lower
  let right := format.magnitudeAt (lower + 1) - x
  (ordinal = lower ∧ (left < right ∨ (left = right ∧ winsTie lower))) ∨
    (ordinal = lower + 1 ∧ (right < left ∨ (right = left ∧ winsTie (lower + 1))))

variable (format : Format) {x : ℝ}

/-! ## The modes -/

/-- The distances to both sides, in units of the last place. -/
theorem distances_eq (positive : 0 < x) :
    x - format.magnitudeAt (format.floorOrdinal x) =
        (format.scaledReal x - ⌊format.scaledReal x⌋₊) * 2 ^ format.placeOf x ∧
      format.magnitudeAt (format.floorOrdinal x + 1) - x =
        (1 - (format.scaledReal x - ⌊format.scaledReal x⌋₊)) * 2 ^ format.placeOf x := by
  have scaled := format.scaledReal_mul x
  rw [format.magnitudeAt_floorOrdinal positive, format.magnitudeAt_floorOrdinal_succ positive]
  constructor
  · rw [sub_mul, scaled]
  · rw [one_sub_mul, sub_mul, scaled]
    ring

theorem left_lt_right_iff (positive : 0 < x) :
    x - format.magnitudeAt (format.floorOrdinal x) <
        format.magnitudeAt (format.floorOrdinal x + 1) - x ↔
      format.scaledReal x - ⌊format.scaledReal x⌋₊ < 1 / 2 := by
  obtain ⟨left, right⟩ := format.distances_eq positive
  rw [left, right, mul_lt_mul_iff_left₀ (by positivity)]
  constructor <;> intro less <;> linarith

theorem left_eq_right_iff (positive : 0 < x) :
    x - format.magnitudeAt (format.floorOrdinal x) =
        format.magnitudeAt (format.floorOrdinal x + 1) - x ↔
      format.scaledReal x - ⌊format.scaledReal x⌋₊ = 1 / 2 := by
  obtain ⟨left, right⟩ := format.distances_eq positive
  rw [left, right, mul_left_inj' (by positivity)]
  constructor <;> intro same <;> linarith

/-- A number and its significand at the last place are even together. -/
theorem even_floorOrdinal_iff : Even (format.floorOrdinal x) ↔ Even ⌊format.scaledReal x⌋₊ := by
  have even : Even (format.indexOf x * 2 ^ format.fractionBits) :=
    (even_two.pow_of_ne_zero (by have := format.fractionBits_pos; omega)).mul_left _
  rw [floorOrdinal, Nat.even_add, iff_true_left even]

theorem ordinalOf_nearestEven (negative : Bool) (positive : 0 < x) :
    format.TakesNearer Even x (format.ordinalOf .nearestEven negative x) := by
  have number : format.ordinalOf .nearestEven negative x =
      format.indexOf x * 2 ^ format.fractionBits + nearestEvenInteger (format.scaledReal x) := rfl
  have less := format.left_lt_right_iff positive
  have tie := format.left_eq_right_iff positive
  have even := format.even_floorOrdinal_iff (x := x)
  unfold nearestEvenInteger at number
  split at number
  · next near =>
    refine Or.inl ⟨number, ?_⟩
    rwa [less, tie, even]
  · next far =>
    refine Or.inr ⟨number, ?_⟩
    rw [← less, ← tie, ← even] at far
    rcases lt_trichotomy (x - format.magnitudeAt (format.floorOrdinal x))
      (format.magnitudeAt (format.floorOrdinal x + 1) - x) with left | middle | right
    · exact absurd (Or.inl left) far
    · refine Or.inr ⟨middle.symm, Nat.even_add_one.mpr fun lower => far (Or.inr ⟨middle, lower⟩)⟩
    · exact Or.inl right

theorem ordinalOf_nearestAway (negative : Bool) (positive : 0 < x) :
    format.TakesNearer (· = format.floorOrdinal x + 1) x
      (format.ordinalOf .nearestAway negative x) := by
  have number : format.ordinalOf .nearestAway negative x =
      format.indexOf x * 2 ^ format.fractionBits + ⌊format.scaledReal x + 1 / 2⌋₊ := rfl
  have less := format.left_lt_right_iff positive
  have nonneg := format.scaledReal_nonneg positive
  have floor := Nat.floor_le nonneg
  have next := Nat.lt_floor_add_one (format.scaledReal x)
  have nonneg' : 0 ≤ format.scaledReal x + 1 / 2 := by linarith
  by_cases near : format.scaledReal x - ⌊format.scaledReal x⌋₊ < 1 / 2
  · have same : ⌊format.scaledReal x + 1 / 2⌋₊ = ⌊format.scaledReal x⌋₊ := by
      rw [Nat.floor_eq_iff nonneg']
      constructor <;> linarith
    refine Or.inl ⟨by rw [number, same, floorOrdinal], Or.inl (less.mpr near)⟩
  · have up : ⌊format.scaledReal x + 1 / 2⌋₊ = ⌊format.scaledReal x⌋₊ + 1 := by
      rw [Nat.floor_eq_iff nonneg']
      constructor <;> push_cast <;> linarith
    refine Or.inr ⟨by rw [number, up, floorOrdinal, Nat.add_assoc], ?_⟩
    rcases (not_lt.mp (mt less.mp near)).lt_or_eq with right | middle
    · exact Or.inl right
    · exact Or.inr ⟨middle, rfl⟩

/-! ## No magnitude is closer -/

namespace TakesNearer

variable {format} {winsTie : ℕ → Prop} {ordinal : ℕ}

/-- Another magnitude is farther away, or it is as far and loses the tie. -/
theorem nearest (taken : format.TakesNearer winsTie x ordinal) (positive : 0 < x) (other : ℕ) :
    |format.magnitudeAt ordinal - x| < |format.magnitudeAt other - x| ∨
      (|format.magnitudeAt ordinal - x| = |format.magnitudeAt other - x| ∧
        (other = ordinal ∨ winsTie ordinal)) := by
  have lower := format.magnitudeAt_floorOrdinal_le positive
  have upper := format.lt_magnitudeAt_floorOrdinal_succ positive
  have mono := format.magnitudeAt_strictMono
  rcases taken with ⟨rfl, near⟩ | ⟨rfl, near⟩
  · rw [abs_of_nonpos (sub_nonpos.mpr lower)]
    rcases lt_trichotomy other (format.floorOrdinal x) with below | rfl | above
    · have less := mono below
      rw [abs_of_nonpos (by linarith)]
      exact Or.inl (by linarith)
    · rw [abs_of_nonpos (sub_nonpos.mpr lower)]
      exact Or.inr ⟨rfl, Or.inl rfl⟩
    · have more := mono.monotone (Nat.succ_le_of_lt above)
      rw [Nat.succ_eq_add_one] at more
      rw [abs_of_nonneg (by linarith)]
      rcases near with less | ⟨tie, wins⟩
      · exact Or.inl (by linarith)
      · rcases more.lt_or_eq with more | same
        · exact Or.inl (by linarith)
        · exact Or.inr ⟨by linarith, Or.inr wins⟩
  · rw [abs_of_pos (sub_pos.mpr upper)]
    rcases lt_trichotomy other (format.floorOrdinal x + 1) with below | rfl | above
    · have less := mono.monotone (Nat.lt_succ_iff.mp below)
      rw [abs_of_nonpos (by linarith)]
      rcases near with right | ⟨tie, wins⟩
      · exact Or.inl (by linarith)
      · rcases less.lt_or_eq with less | same
        · exact Or.inl (by linarith)
        · exact Or.inr ⟨by linarith, Or.inr wins⟩
    · rw [abs_of_pos (sub_pos.mpr upper)]
      exact Or.inr ⟨rfl, Or.inl rfl⟩
    · have more := mono above
      rw [abs_of_nonneg (by linarith)]
      exact Or.inl (by linarith)

end TakesNearer

/-! ## Overflow -/

theorem placeAt_last :
    format.placeAt (format.infinityOrdinal - 1) = format.emax - format.fractionBits := by
  have mask := format.exponentMask_eq
  have range := format.one_le_emax
  have positive := Nat.two_pow_pos format.fractionBits
  have last : format.infinityOrdinal - 1 =
      2 ^ format.fractionBits - 1 + (format.exponentMask - 1) * 2 ^ format.fractionBits := by
    have := Nat.le_mul_of_pos_left (2 ^ format.fractionBits) format.one_le_exponentMask
    unfold infinityOrdinal
    rw [Nat.sub_mul]
    omega
  unfold placeAt placeIndexAt lowestPlace emin
  rw [last, Nat.add_mul_div_right _ _ positive, Nat.div_eq_of_lt (by omega)]
  omega

/-- The threshold is the middle between the largest finite magnitude and the next one, which would
need a larger exponent. -/
theorem overflowThreshold_eq : format.overflowThreshold =
    (format.magnitudeAt (format.infinityOrdinal - 1) +
      format.magnitudeAt format.infinityOrdinal) / 2 := by
  have next := format.magnitudeAt_succ (format.infinityOrdinal - 1)
  have top : (2 : ℝ) ^ (format.emax + 1) = 2 ^ format.emax * 2 := zpow_add_one₀ two_ne_zero _
  have unit : (2 : ℝ) ^ (format.emax - format.fractionBits) =
      2 ^ format.emax * 2 ^ (-format.precision : ℤ) * 2 := by
    rw [← zpow_add₀ two_ne_zero, ← zpow_add_one₀ two_ne_zero]
    have := format.fractionBits_add_one
    congr 1
    omega
  rw [Nat.sub_add_cancel format.infinityOrdinal_pos, placeAt_last, magnitudeAt_infinityOrdinal,
    unit, top] at next
  rw [magnitudeAt_infinityOrdinal, top, overflowThreshold]
  linarith

variable {format} in
/-- A number is rounded to an infinity from the threshold on, if the largest finite magnitude does
not win the tie there. -/
theorem TakesNearer.infinityOrdinal_le_iff {winsTie : ℕ → Prop} {ordinal : ℕ}
    (taken : format.TakesNearer winsTie x ordinal) (positive : 0 < x)
    (loses : format.floorOrdinal x = format.infinityOrdinal - 1 →
      ¬ winsTie (format.floorOrdinal x)) :
    format.infinityOrdinal ≤ ordinal ↔ format.overflowThreshold ≤ x := by
  have lower := format.magnitudeAt_floorOrdinal_le positive
  have upper := format.lt_magnitudeAt_floorOrdinal_succ positive
  have mono := format.magnitudeAt_strictMono
  have ends := mono (Nat.sub_one_lt format.infinityOrdinal_pos.ne')
  rw [overflowThreshold_eq]
  rcases lt_trichotomy (format.floorOrdinal x) (format.infinityOrdinal - 1) with
    below | last | above
  · have bound := mono.monotone (Nat.succ_le_of_lt below)
    rw [Nat.succ_eq_add_one] at bound
    refine iff_of_false ?_ (by linarith)
    rcases taken with ⟨rfl, -⟩ | ⟨rfl, -⟩ <;> omega
  · have loses := loses last
    have next : format.floorOrdinal x + 1 = format.infinityOrdinal := by
      have := format.infinityOrdinal_pos
      omega
    rw [← last, ← next]
    rcases taken with ⟨rfl, near⟩ | ⟨rfl, near⟩
    · refine iff_of_false (by omega) (not_le.mpr ?_)
      have := near.resolve_right fun tie => loses tie.2
      linarith
    · refine iff_of_true le_rfl ?_
      rcases near with less | ⟨tie, -⟩ <;> linarith
  · have bound := mono.monotone (show format.infinityOrdinal ≤ format.floorOrdinal x by omega)
    refine iff_of_true ?_ (by linarith)
    rcases taken with ⟨rfl, -⟩ | ⟨rfl, -⟩ <;> omega

/-! ## Into the format -/

variable {format} in
/-- The closer magnitude with the sign of the number is the nearest value. -/
theorem TakesNearer.roundsToNearest {winsTie : ℕ → Prop} {wins : ℝ → Prop} {ordinal : ℕ}
    (negative : Bool) (taken : format.TakesNearer winsTie x ordinal) (positive : 0 < x)
    (loses : format.floorOrdinal x = format.infinityOrdinal - 1 →
      ¬ winsTie (format.floorOrdinal x))
    (tie : ordinal < format.infinityOrdinal → winsTie ordinal → ∀ other,
      |format.magnitudeAt ordinal - x| = |format.magnitudeAt other - x| →
        wins (signed negative (format.magnitudeAt other))) :
    format.RoundsToNearest wins (signed negative x)
      (format.signBit negative + min ordinal format.infinityOrdinal) := by
  have limit := taken.infinityOrdinal_le_iff positive loses
  unfold RoundsToNearest
  rw [abs_signed, abs_of_pos positive]
  by_cases overflow : format.overflowThreshold ≤ x
  · rw [if_pos overflow, min_eq_right (limit.mpr overflow), isInfinite_iff,
      magnitudeField_signBit_add _ _ format.infinityOrdinal_lt]
  · have finite := not_le.mp (mt limit.mp overflow)
    rw [if_neg overflow, min_eq_left finite.le, realOf_signBit_add _ _ finite]
    refine ⟨format.isFinite_signBit_add negative finite, fun pattern _ _ => ?_⟩
    rw [abs_signed_sub, realOf, magnitudeOf_eq]
    obtain ⟨signs, equal⟩ := abs_sub_le_signed (format.isNegative pattern) negative
      (format.magnitudeAt_nonneg (format.magnitudeField pattern)) positive
    rcases taken.nearest positive (format.magnitudeField pattern) with closer | ⟨same, wins⟩
    · exact ⟨(closer.trans_le signs).le, fun tied => absurd tied (closer.trans_le signs).ne⟩
    · refine ⟨same.trans_le signs, fun tied distinct => ?_⟩
      have sign := equal (same.symm.trans tied)
      rw [sign] at distinct ⊢
      rcases wins with rfl | wins
      · exact absurd rfl distinct
      · exact tie finite wins _ same

theorem not_even_last : ¬ Even (format.infinityOrdinal - 1) := by
  have even : Even format.infinityOrdinal :=
    (even_two.pow_of_ne_zero (by have := format.fractionBits_pos; omega)).mul_left _
  obtain ⟨half, double⟩ := even
  have positive := format.infinityOrdinal_pos
  rw [Nat.not_even_iff]
  omega

theorem roundReal_nearestEven (negative : Bool) (positive : 0 < x) :
    format.RoundsTo .nearestEven negative x (format.roundReal .nearestEven negative x).pattern := by
  have taken := format.ordinalOf_nearestEven negative positive
  have last : format.lastOrdinal .nearestEven negative = format.infinityOrdinal := rfl
  rw [format.roundReal_pattern, last]
  unfold RoundsTo
  dsimp only
  refine taken.roundsToNearest negative positive (fun last => last ▸ format.not_even_last) ?_
  intro finite even other _
  rw [min_eq_left finite.le, even_signBit_add_iff]
  exact even

theorem roundReal_nearestAway (negative : Bool) (positive : 0 < x) :
    format.RoundsTo .nearestAway negative x (format.roundReal .nearestAway negative x).pattern := by
  have taken := format.ordinalOf_nearestAway negative positive
  have upper := format.lt_magnitudeAt_floorOrdinal_succ positive
  have last : format.lastOrdinal .nearestAway negative = format.infinityOrdinal := rfl
  rw [format.roundReal_pattern, last]
  unfold RoundsTo
  dsimp only
  refine taken.roundsToNearest negative positive (fun _ => (Nat.lt_succ_self _).ne) ?_
  intro finite up other same
  rw [min_eq_left finite.le, realOf_signBit_add _ _ finite, abs_signed,
    abs_signed, abs_of_nonneg (format.magnitudeAt_nonneg _),
    abs_of_nonneg (format.magnitudeAt_nonneg _)]
  -- The magnitude taken lies above the number, so one as far away is not above it.
  rw [up, abs_of_pos (sub_pos.mpr upper)] at same
  rw [up]
  linarith [le_abs_self (format.magnitudeAt other - x)]

end LibmAudit.Format
