/-
**Rounding real numbers.**

* `Format.ordinalOf`: the number of the magnitude that a positive real number is rounded to.
* `Format.roundReal`: pattern and exceptions of a positive real number with a sign.
* `Format.roundAt_eq`, `round_eq`: rounding a significand with an exponent and a sticky bit is
  rounding any real number that they stand for.
-/

import LibmAudit.Proofs.Rounding.Integer
import LibmAudit.Proofs.Rounding.Pack

namespace LibmAudit

attribute [local instance (high)] instPowNat

namespace Format

/-- The exponent of the last place that a positive real number keeps. -/
noncomputable def placeOf (format : Format) (x : ℝ) : ℤ :=
  max (Int.log 2 x) format.emin - format.fractionBits

/-- How far that place is above the lowest one. -/
noncomputable def indexOf (format : Format) (x : ℝ) : ℕ :=
  (format.placeOf x - format.lowestPlace).toNat

/-- A positive real number in units of its last place. -/
noncomputable def scaledReal (format : Format) (x : ℝ) : ℝ := x / 2 ^ format.placeOf x

/-- The number of the magnitude that a positive real number is rounded to. -/
noncomputable def ordinalOf (format : Format) (mode : Mode) (negative : Bool) (x : ℝ) : ℕ :=
  format.indexOf x * 2 ^ format.fractionBits +
    mode.roundToInteger negative (format.scaledReal x)

open Classical in
/-- Pattern and exceptions of a positive real number with a sign. -/
noncomputable def roundReal (format : Format) (mode : Mode) (negative : Bool) (x : ℝ) : Rounded :=
  format.packNumber mode negative (format.ordinalOf mode negative x)
    (inexactFlags (decide (format.scaledReal x ≠ ⌊format.scaledReal x⌋₊))
      (decide (x < 2 ^ format.emin)))

variable (format : Format)

/-! ## Places -/

theorem placeOf_eq (x : ℝ) : format.placeOf x = format.lowestPlace + format.indexOf x := by
  unfold indexOf placeOf lowestPlace
  omega

theorem scaledReal_mul (x : ℝ) : format.scaledReal x * 2 ^ format.placeOf x = x :=
  div_mul_cancel₀ _ (by positivity)

theorem scaledReal_lt (x : ℝ) : format.scaledReal x < (2 ^ format.precision : ℕ) := by
  have top : x < 2 ^ (Int.log 2 x + 1) := by exact_mod_cast Int.lt_zpow_succ_log_self one_lt_two x
  have width := format.fractionBits_add_one
  have unit : (2 : ℝ) ^ (Int.log 2 x + 1) ≤ 2 ^ (format.precision + format.placeOf x) :=
    zpow_le_zpow_right₀ one_le_two (by unfold placeOf; omega)
  rw [scaledReal, div_lt_iff₀ (by positivity)]
  push_cast
  rw [← zpow_natCast, ← zpow_add₀ two_ne_zero]
  exact top.trans_le unit

/-- Above the lowest place the significand is normal. -/
theorem le_scaledReal {x : ℝ} (positive : 0 < x) :
    format.indexOf x = 0 ∨ (2 ^ format.fractionBits : ℕ) ≤ format.scaledReal x := by
  rcases Nat.eq_zero_or_pos (format.indexOf x) with lowest | above
  · exact Or.inl lowest
  · have bottom : (2 : ℝ) ^ Int.log 2 x ≤ x := by
      exact_mod_cast Int.zpow_log_le_self one_lt_two positive
    have place : (format.fractionBits : ℤ) + format.placeOf x = Int.log 2 x := by
      unfold indexOf placeOf lowestPlace at above
      unfold placeOf
      omega
    right
    rw [scaledReal, le_div_iff₀ (by positivity)]
    push_cast
    rwa [← zpow_natCast, ← zpow_add₀ two_ne_zero, place]

theorem scaledReal_nonneg {x : ℝ} (positive : 0 < x) : 0 ≤ format.scaledReal x :=
  div_nonneg positive.le (by positivity)

theorem roundToInteger_scaledReal_le (mode : Mode) (negative : Bool) {x : ℝ} (positive : 0 < x) :
    mode.roundToInteger negative (format.scaledReal x) ≤ 2 ^ format.precision :=
  mode.roundToInteger_le negative (format.scaledReal_nonneg positive) (format.scaledReal_lt x).le

theorem le_roundToInteger_scaledReal (mode : Mode) (negative : Bool) {x : ℝ} (positive : 0 < x) :
    format.indexOf x = 0 ∨
      2 ^ format.fractionBits ≤ mode.roundToInteger negative (format.scaledReal x) :=
  (format.le_scaledReal positive).imp_right fun normal => mode.le_roundToInteger negative normal

end Format

/-! ## Significands -/

/-- The leading digit of a significand is that of all numbers it stands for. -/
theorem StandsFor.bounds {significand : ℕ} {exponent : ℤ} {sticky : Bool} {x : ℝ}
    (given : StandsFor significand exponent sticky x) (positive : significand ≠ 0) :
    (2 : ℝ) ^ Format.leadingExponent significand exponent ≤ x ∧
      x < 2 ^ (Format.leadingExponent significand exponent + 1) := by
  obtain ⟨excess, nonneg, small, -, rfl⟩ := given.exists_excess
  have length := bitLength_pos positive
  have below : (2 : ℝ) ^ (bitLength significand - 1) ≤ significand := by
    exact_mod_cast two_pow_le_of_bitLength positive
  have above : (significand : ℝ) + 1 ≤ 2 ^ bitLength significand := by
    exact_mod_cast lt_two_pow_bitLength significand
  have bottom : Format.leadingExponent significand exponent =
      (bitLength significand - 1 : ℕ) + exponent := by
    unfold Format.leadingExponent
    omega
  have top : Format.leadingExponent significand exponent + 1 =
      bitLength significand + exponent := by
    unfold Format.leadingExponent
    omega
  rw [top, bottom, zpow_add₀ two_ne_zero, zpow_add₀ two_ne_zero, zpow_natCast, zpow_natCast]
  constructor
  · exact mul_le_mul_of_nonneg_right (by linarith) (by positivity)
  · exact mul_lt_mul_of_pos_right (by linarith) (by positivity)

theorem StandsFor.pos {significand : ℕ} {exponent : ℤ} {sticky : Bool} {x : ℝ}
    (given : StandsFor significand exponent sticky x) (positive : significand ≠ 0) : 0 < x :=
  lt_of_lt_of_le (by positivity) (given.bounds positive).1

theorem StandsFor.log_eq {significand : ℕ} {exponent : ℤ} {sticky : Bool} {x : ℝ}
    (given : StandsFor significand exponent sticky x) (positive : significand ≠ 0) :
    Int.log 2 x = Format.leadingExponent significand exponent := by
  have bounds := given.bounds positive
  have pos := given.pos positive
  refine le_antisymm (Int.lt_add_one_iff.mp ?_) ?_
  · exact (Int.lt_zpow_iff_log_lt one_lt_two pos).mp (by exact_mod_cast bounds.2)
  · exact (Int.zpow_le_iff_le_log one_lt_two pos).mp (by exact_mod_cast bounds.1)

namespace Format

variable {format : Format} {significand : ℕ} {exponent : ℤ} {sticky : Bool} {x : ℝ}

theorem placeFor_eq (given : StandsFor significand exponent sticky x)
    (positive : significand ≠ 0) : format.placeFor significand exponent = format.placeOf x := by
  rw [placeFor, placeOf, given.log_eq positive]

theorem leadingExponent_lt_emin_iff (given : StandsFor significand exponent sticky x)
    (positive : significand ≠ 0) :
    leadingExponent significand exponent < format.emin ↔ x < 2 ^ format.emin := by
  rw [← given.log_eq positive, ← Int.lt_zpow_iff_log_lt one_lt_two (given.pos positive),
    Nat.cast_ofNat]

/-- An exact significand without bits below its last place is an integer there. -/
theorem scaledReal_eq_natCast (exact : x = significand * 2 ^ exponent)
    (coarse : format.placeOf x ≤ exponent) :
    format.scaledReal x = (significand * 2 ^ (exponent - format.placeOf x).toNat : ℕ) := by
  have split : exponent = ((exponent - format.placeOf x).toNat : ℤ) + format.placeOf x := by omega
  rw [scaledReal, div_eq_iff (by positivity)]
  nth_rewrite 1 [exact]
  nth_rewrite 1 [split]
  rw [zpow_add₀ two_ne_zero, zpow_natCast]
  push_cast
  ring

open Classical in
/-- The significand at the last place is the number rounded to an integer there. -/
theorem rounded_significand (mode : Mode) (negative : Bool)
    (given : StandsFor significand exponent sticky x) (positive : significand ≠ 0)
    (room : 0 < format.placeOf x - exponent ∨ sticky = false) :
    (if 0 < format.placeOf x - exponent then
        cut mode negative significand (format.placeOf x - exponent).toNat (format.placeOf x) sticky
      else
        ⟨significand * 2 ^ (-(format.placeOf x - exponent)).toNat, format.placeOf x, false⟩) =
      ⟨mode.roundToInteger negative (format.scaledReal x), format.placeOf x,
        decide (format.scaledReal x ≠ ⌊format.scaledReal x⌋₊)⟩ := by
  by_cases below : 0 < format.placeOf x - exponent
  · have shift : 0 < (format.placeOf x - exponent).toNat := by omega
    have place : exponent + ((format.placeOf x - exponent).toNat : ℤ) = format.placeOf x := by omega
    have kept := cut_kept mode negative (format.placeOf x) given positive shift
    have inexact := cut_inexact mode negative (format.placeOf x) given positive shift
    rw [place] at kept inexact
    rw [if_pos below, scaledReal, ← kept]
    refine congrArg₂ (Cut.mk _) rfl ?_
    rw [Bool.eq_iff_iff, decide_eq_true_eq]
    exact inexact
  · have exact : x = significand * 2 ^ exponent := by
      rw [StandsFor, if_neg (by simp [room.resolve_left below])] at given
      exact given
    have scaled := scaledReal_eq_natCast exact (show format.placeOf x ≤ exponent by omega)
    rw [if_neg below, scaled, Mode.roundToInteger_natCast, Nat.floor_natCast, neg_sub]
    simp

/-- A significand and a sticky bit are rounded as any number that they stand for. -/
theorem roundAt_eq (mode : Mode) (negative : Bool)
    (given : StandsFor significand exponent sticky x) (positive : significand ≠ 0)
    (room : 0 < format.placeFor significand exponent - exponent ∨ sticky = false) :
    format.roundAt mode negative significand exponent sticky =
      format.roundReal mode negative x := by
  have pos := given.pos positive
  rw [placeFor_eq given positive] at room
  unfold roundAt roundReal ordinalOf
  rw [placeFor_eq given positive]
  dsimp only
  rw [rounded_significand mode negative given positive room,
    ← pack_normalize _ _ _ _ (format.roundToInteger_scaledReal_le mode negative pos)
      (format.le_roundToInteger_scaledReal mode negative pos), ← format.placeOf_eq,
    decide_eq_decide.mpr (leadingExponent_lt_emin_iff given positive)]

/-! ## Refusals -/

theorem checkLength_eq_ok {exponent : ℕ} (short : exponent < storageLimit) :
    checkLength exponent = .ok () := by
  have limit := storageLimit_eq
  have counted : isBeyondCounting exponent = false := by
    unfold isBeyondCounting
    split <;> simp <;> omega
  have stored : isBeyondMemory exponent = false := decide_eq_false (not_le.mpr short)
  simp [checkLength, counted, stored]

theorem checkLength_eq_ok_iff {length : ℕ} :
    checkLength length = .ok () ↔ length < storageLimit := by
  refine ⟨fun stored => not_le.mp fun long => ?_, checkLength_eq_ok⟩
  have beyond : isBeyondMemory length = true := decide_eq_true long
  unfold checkLength at stored
  rw [if_pos beyond] at stored
  split at stored <;> exact absurd stored nofun

/-- Rounding gives a result unless a sticky bit has no room or the shift is beyond all memory. -/
theorem round_eq (mode : Mode) (negative : Bool)
    (given : StandsFor significand exponent sticky x) (positive : significand ≠ 0)
    (room : 0 < format.placeFor significand exponent - exponent ∨ sticky = false)
    (short : format.placeFor significand exponent - exponent < storageLimit) :
    format.round mode negative significand exponent sticky =
      .ok (format.roundReal mode negative x) := by
  rw [round, if_neg positive]
  by_cases below : 0 < format.placeFor significand exponent - exponent
  · rw [if_pos below, checkLength_eq_ok (by omega), roundAt_eq mode negative given positive room]
    rfl
  · obtain rfl := room.resolve_left below
    rw [if_neg below, if_neg Bool.false_ne_true, roundAt_eq mode negative given positive room]

end Format

end LibmAudit
