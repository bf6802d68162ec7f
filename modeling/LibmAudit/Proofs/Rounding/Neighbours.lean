/-
**The magnitudes around a real number.**

* `Format.floorOrdinal`: the number of the greatest magnitude up to a positive real number, whatever
  the range.
* `Format.magnitudeAt_le_iff`, `le_magnitudeAt_iff`: the magnitudes up to a number and from it on.
* `Format.ordinalOf_awayFromZero`: when rounding away from zero leaves that magnitude.
* `Format.roundReal_pattern`: the pattern of a rounded number is its sign bit and a number that is
  clipped where the range ends.
-/

import LibmAudit.Proofs.Rounding.Real

namespace LibmAudit.Format

attribute [local instance (high)] instPowNat

/-- The number of the greatest magnitude up to a positive real number. -/
noncomputable def floorOrdinal (format : Format) (x : ℝ) : ℕ :=
  format.indexOf x * 2 ^ format.fractionBits + ⌊format.scaledReal x⌋₊

variable (format : Format) {x : ℝ}

/-! ## The two neighbours -/

theorem magnitudeAt_ordinalOf (mode : Mode) (negative : Bool) (positive : 0 < x) :
    format.magnitudeAt (format.ordinalOf mode negative x) =
      mode.roundToInteger negative (format.scaledReal x) * 2 ^ format.placeOf x := by
  rw [ordinalOf, magnitudeAt_add _ (format.roundToInteger_scaledReal_le mode negative positive)
    (format.le_roundToInteger_scaledReal mode negative positive), ← format.placeOf_eq]

theorem magnitudeAt_floorOrdinal (positive : 0 < x) :
    format.magnitudeAt (format.floorOrdinal x) =
      ⌊format.scaledReal x⌋₊ * 2 ^ format.placeOf x :=
  format.magnitudeAt_ordinalOf .towardZero false positive

theorem magnitudeAt_floorOrdinal_succ (positive : 0 < x) :
    format.magnitudeAt (format.floorOrdinal x + 1) =
      (⌊format.scaledReal x⌋₊ + 1) * 2 ^ format.placeOf x := by
  have small : ⌊format.scaledReal x⌋₊ < 2 ^ format.precision :=
    (Nat.floor_lt (format.scaledReal_nonneg positive)).mpr (format.scaledReal_lt x)
  have normal := (format.le_scaledReal positive).imp_right fun normal =>
    (Nat.le_floor normal).trans (Nat.le_succ _)
  rw [floorOrdinal, add_assoc, magnitudeAt_add _ small normal, ← format.placeOf_eq]
  push_cast
  rfl

theorem magnitudeAt_floorOrdinal_le (positive : 0 < x) :
    format.magnitudeAt (format.floorOrdinal x) ≤ x := by
  rw [format.magnitudeAt_floorOrdinal positive]
  nth_rewrite 3 [← format.scaledReal_mul x]
  have floor := Nat.floor_le (format.scaledReal_nonneg positive)
  exact mul_le_mul_of_nonneg_right floor (by positivity)

theorem lt_magnitudeAt_floorOrdinal_succ (positive : 0 < x) :
    x < format.magnitudeAt (format.floorOrdinal x + 1) := by
  rw [format.magnitudeAt_floorOrdinal_succ positive]
  nth_rewrite 1 [← format.scaledReal_mul x]
  exact mul_lt_mul_of_pos_right (Nat.lt_floor_add_one _) (by positivity)

/-- The magnitudes up to a number. -/
theorem magnitudeAt_le_iff (positive : 0 < x) (ordinal : ℕ) :
    format.magnitudeAt ordinal ≤ x ↔ ordinal ≤ format.floorOrdinal x := by
  constructor
  · intro le
    have below := le.trans_lt (format.lt_magnitudeAt_floorOrdinal_succ positive)
    exact Nat.lt_succ_iff.mp (format.magnitudeAt_strictMono.lt_iff_lt.mp below)
  · intro le
    have below := format.magnitudeAt_strictMono.monotone le
    exact below.trans (format.magnitudeAt_floorOrdinal_le positive)

/-- A number is a magnitude if nothing is left over in units of its last place. -/
theorem magnitudeAt_floorOrdinal_eq_iff (positive : 0 < x) :
    format.magnitudeAt (format.floorOrdinal x) = x ↔
      format.scaledReal x = ⌊format.scaledReal x⌋₊ := by
  have unit : (0 : ℝ) < 2 ^ format.placeOf x := by positivity
  rw [format.magnitudeAt_floorOrdinal positive, ← eq_div_iff unit.ne', eq_comm]
  rfl

/-- Rounding away from zero goes to the next magnitude unless the number is one itself. -/
theorem ordinalOf_awayFromZero (negative : Bool) (positive : 0 < x) :
    (format.magnitudeAt (format.floorOrdinal x) = x ∧
        format.ordinalOf .awayFromZero negative x = format.floorOrdinal x) ∨
      (format.magnitudeAt (format.floorOrdinal x) < x ∧
        format.ordinalOf .awayFromZero negative x = format.floorOrdinal x + 1) := by
  have away : format.ordinalOf .awayFromZero negative x =
      format.indexOf x * 2 ^ format.fractionBits + ⌈format.scaledReal x⌉₊ := rfl
  rcases (format.magnitudeAt_floorOrdinal_le positive).eq_or_lt with exact | below
  · have integer := (format.magnitudeAt_floorOrdinal_eq_iff positive).mp exact
    refine Or.inl ⟨exact, ?_⟩
    rw [away, floorOrdinal, integer, Nat.ceil_natCast, Nat.floor_natCast]
  · have fraction := mt (format.magnitudeAt_floorOrdinal_eq_iff positive).mpr below.ne
    have part : (⌊format.scaledReal x⌋₊ : ℝ) < format.scaledReal x :=
      lt_of_le_of_ne (Nat.floor_le (format.scaledReal_nonneg positive)) (Ne.symm fraction)
    have ceil : ⌈format.scaledReal x⌉₊ = ⌊format.scaledReal x⌋₊ + 1 := by
      rw [Nat.ceil_eq_iff (Nat.succ_ne_zero _)]
      exact ⟨by simpa using part, by exact_mod_cast (Nat.lt_floor_add_one _).le⟩
    refine Or.inr ⟨below, ?_⟩
    rw [away, floorOrdinal, ceil, Nat.add_assoc]

/-- The magnitudes from a number on. -/
theorem le_magnitudeAt_iff (negative : Bool) (positive : 0 < x) (ordinal : ℕ) :
    x ≤ format.magnitudeAt ordinal ↔ format.ordinalOf .awayFromZero negative x ≤ ordinal := by
  rcases format.ordinalOf_awayFromZero negative positive with
    ⟨exact, away⟩ | ⟨below, away⟩
  · rw [away]
    nth_rewrite 1 [← exact]
    exact format.magnitudeAt_strictMono.le_iff_le
  · rw [away, Nat.succ_le_iff, ← not_le (a := ordinal), ← format.magnitudeAt_le_iff positive,
      not_le]
    refine ⟨fun le => lt_of_le_of_ne le fun same => ?_, le_of_lt⟩
    -- A number that is a magnitude is the greatest magnitude up to it.
    have up := (format.magnitudeAt_le_iff positive ordinal).mp same.ge
    have := format.magnitudeAt_strictMono.monotone up
    linarith

/-! ## The end of the range -/

/-- Where the numbering ends for a mode and a sign. -/
def lastOrdinal (format : Format) (mode : Mode) (negative : Bool) : ℕ :=
  if mode.overflowsToInfinity negative then format.infinityOrdinal else format.infinityOrdinal - 1

theorem infinityOrdinal_pos : 0 < format.infinityOrdinal :=
  (Nat.two_pow_pos _).trans_le format.two_pow_fractionBits_le_infinityOrdinal

theorem lastOrdinal_le (mode : Mode) (negative : Bool) :
    format.lastOrdinal mode negative ≤ format.infinityOrdinal := by
  unfold lastOrdinal
  split <;> omega

/-- The largest finite values have the number before that of the infinities. -/
theorem maxFinite_eq (negative : Bool) :
    format.maxFinite negative = format.signBit negative + (format.infinityOrdinal - 1) := by
  have positive := Nat.two_pow_pos format.fractionBits
  have := Nat.le_mul_of_pos_left (2 ^ format.fractionBits) format.one_le_exponentMask
  unfold maxFinite infinityOrdinal fractionMask
  rw [Nat.sub_mul]
  omega

theorem overflowed_eq (mode : Mode) (negative : Bool) :
    format.overflowed mode negative =
      format.signBit negative + format.lastOrdinal mode negative := by
  unfold overflowed lastOrdinal
  split
  · rfl
  · exact format.maxFinite_eq negative

/-- The pattern of a rounded number. -/
theorem roundReal_pattern (mode : Mode) (negative : Bool) (x : ℝ) :
    (format.roundReal mode negative x).pattern = format.signBit negative +
      min (format.ordinalOf mode negative x) (format.lastOrdinal mode negative) := by
  have last := format.lastOrdinal_le mode negative
  have positive := format.infinityOrdinal_pos
  unfold roundReal packNumber
  split
  · next above =>
    rw [min_eq_right (last.trans above)]
    exact format.overflowed_eq mode negative
  · next below =>
    have : format.infinityOrdinal - 1 ≤ format.lastOrdinal mode negative := by
      unfold lastOrdinal
      split <;> omega
    rw [min_eq_left (by omega)]

end LibmAudit.Format
