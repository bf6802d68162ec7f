/-
**Rounded roots by their powers.**

Which magnitude a root is rounded to can be said without the root: its power, those of its
neighbours and those of the middles between them are compared with the radicand. The same holds for
the exceptions.

* `Format.IsNearestRoot`, `IsRootBelow`, `IsRootAbove`, `IsRootIn`: the magnitude that a mode takes.
* `Format.IsRoundedRoot`: pattern and exceptions of a rounded root.
* `Format.isRootIn_ordinalOf`, `roundReal_isRoundedRoot`: what a real root is rounded to.
* `Format.roundReal_flags_of_root`: the roots of values are in the range of normal numbers.
-/

import LibmAudit.Proofs.Order.Finite
import LibmAudit.Proofs.Rounding.Bracket

namespace LibmAudit.Format

attribute [local instance (high)] instPowNat

/-! ## What a rounded root is -/

section

variable (format : Format) (mode : Mode) (negative : Bool) (degree : ℕ) (radicand : ℝ)
  (upward downward : Prop) (ordinal : ℕ)

/-- The middle between the magnitude with a number and the next one. -/
noncomputable def midpointAt : ℝ :=
  (format.magnitudeAt ordinal + format.magnitudeAt (ordinal + 1)) / 2

/-- The root is between the middles on both sides of the magnitude, or it is one of them: the lower
one if such roots are rounded upward, and the upper one if they are rounded downward. -/
def IsNearestRoot : Prop :=
  (∀ lower, ordinal = lower + 1 → format.midpointAt lower ^ degree ≤ radicand ∧
      (format.midpointAt lower ^ degree = radicand → upward)) ∧
    radicand ≤ format.midpointAt ordinal ^ degree ∧
      (format.midpointAt ordinal ^ degree = radicand → downward)

/-- The magnitude is the greatest one up to the root. -/
def IsRootBelow : Prop :=
  format.magnitudeAt ordinal ^ degree ≤ radicand ∧
    radicand < format.magnitudeAt (ordinal + 1) ^ degree

/-- The magnitude is the least one from the root on. -/
def IsRootAbove : Prop :=
  (∀ lower, ordinal = lower + 1 → format.magnitudeAt lower ^ degree < radicand) ∧
    radicand ≤ format.magnitudeAt ordinal ^ degree

/-- The magnitude is the one that a mode takes for a root with a sign, whatever the range. -/
def IsRootIn : Prop :=
  match mode with
  | .nearestEven => format.IsNearestRoot degree radicand (Even ordinal) (Even ordinal) ordinal
  | .nearestAway => format.IsNearestRoot degree radicand True False ordinal
  | .up => if negative then format.IsRootBelow degree radicand ordinal
    else format.IsRootAbove degree radicand ordinal
  | .down => if negative then format.IsRootAbove degree radicand ordinal
    else format.IsRootBelow degree radicand ordinal
  | .towardZero => format.IsRootBelow degree radicand ordinal
  | .awayFromZero => format.IsRootAbove degree radicand ordinal

/-- Pattern and exceptions of a rounded root with a sign. The number is clipped where the range
ends. -/
structure IsRoundedRoot (rounded : Rounded) : Prop where
  isRoot : format.IsRootIn mode negative degree radicand ordinal
  pattern : rounded.pattern =
    format.signBit negative + min ordinal (format.lastOrdinal mode negative)
  inexact : rounded.flags.inexact = true ↔ format.isInfinite rounded.pattern = true ∨
    |format.realOf rounded.pattern| ^ degree ≠ radicand
  underflow : rounded.flags.underflow = true ↔
    rounded.flags.inexact = true ∧ radicand < (2 ^ format.emin) ^ degree
  overflow : rounded.flags.overflow = true ↔ format.infinityOrdinal ≤ ordinal
  noOther : rounded.flags.invalid = false ∧ rounded.flags.divideByZero = false ∧
    rounded.flags.unnamed = 0

end

/-! ## Roots are rounded to that -/

variable {format : Format} {degree ordinal : ℕ} {root radicand : ℝ}

theorem midpointAt_nonneg (format : Format) (ordinal : ℕ) : 0 ≤ format.midpointAt ordinal := by
  have := format.magnitudeAt_nonneg ordinal
  have := format.magnitudeAt_nonneg (ordinal + 1)
  unfold midpointAt
  positivity

section

variable (positive : 0 < degree) (above : 0 < root) (power : root ^ degree = radicand)

include positive above power

/-- Of the two magnitudes around a root the closer one is between the middles. -/
theorem TakesNearer.isNearestRoot {winsTie : ℕ → Prop} {upward downward : Prop}
    (taken : format.TakesNearer winsTie root ordinal)
    (up : winsTie ordinal → ordinal = format.floorOrdinal root + 1 → upward)
    (down : winsTie ordinal → ordinal = format.floorOrdinal root → downward) :
    format.IsNearestRoot degree radicand upward downward ordinal := by
  have floor := format.magnitudeAt_floorOrdinal_le above
  have next := format.lt_magnitudeAt_floorOrdinal_succ above
  have mono := format.magnitudeAt_strictMono
  have compare (number : ℕ) := format.midpointAt_nonneg number
  unfold IsNearestRoot
  subst radicand
  simp only [pow_le_pow_iff_left₀ (compare _) above.le positive.ne',
    pow_le_pow_iff_left₀ above.le (compare _) positive.ne',
    pow_left_inj₀ (compare _) above.le positive.ne']
  unfold midpointAt
  rcases taken with ⟨rfl, near⟩ | ⟨rfl, near⟩
  · refine ⟨fun lower same => ?_, ?_, fun middle => ?_⟩
    · -- The middle below is less than the magnitude, and so than the root.
      have less := mono (Nat.lt_succ_self lower)
      rw [Nat.succ_eq_add_one, ← same] at less
      rw [← same]
      exact ⟨by linarith, fun middle => absurd middle (by linarith)⟩
    · rcases near with less | ⟨tie, -⟩ <;> linarith
    · rcases near with less | ⟨-, wins⟩
      · linarith
      · exact down wins rfl
  · refine ⟨fun lower same => ?_, ?_, fun middle => ?_⟩
    · obtain rfl := Nat.succ_injective same
      refine ⟨by rcases near with less | ⟨tie, -⟩ <;> linarith, fun middle => ?_⟩
      rcases near with less | ⟨-, wins⟩
      · linarith
      · exact up wins rfl
    · have more := mono (Nat.lt_succ_self (format.floorOrdinal root + 1))
      rw [Nat.succ_eq_add_one] at more
      linarith
    · have more := mono (Nat.lt_succ_self (format.floorOrdinal root + 1))
      rw [Nat.succ_eq_add_one] at more
      linarith

theorem isRootBelow_floorOrdinal :
    format.IsRootBelow degree radicand (format.floorOrdinal root) := by
  subst radicand
  exact ⟨pow_le_pow_left₀ (format.magnitudeAt_nonneg _) (format.magnitudeAt_floorOrdinal_le above) _,
    pow_lt_pow_left₀ (format.lt_magnitudeAt_floorOrdinal_succ above) above.le positive.ne'⟩

theorem isRootAbove_awayFromZero (negative : Bool) :
    format.IsRootAbove degree radicand (format.ordinalOf .awayFromZero negative root) := by
  subst radicand
  constructor
  · intro lower same
    refine pow_lt_pow_left₀ (not_le.mp fun le => ?_) (format.magnitudeAt_nonneg _) positive.ne'
    have := (format.le_magnitudeAt_iff negative above lower).mp le
    omega
  · exact pow_le_pow_left₀ above.le ((format.le_magnitudeAt_iff negative above _).mpr le_rfl) _

/-- The number of the magnitude that a root is rounded to, by the powers of the magnitudes. -/
theorem isRootIn_ordinalOf (mode : Mode) (negative : Bool) :
    format.IsRootIn mode negative degree radicand (format.ordinalOf mode negative root) := by
  have below : format.IsRootBelow degree radicand (format.floorOrdinal root) :=
    isRootBelow_floorOrdinal positive above power
  have least : format.IsRootAbove degree radicand (format.ordinalOf .awayFromZero negative root) :=
    isRootAbove_awayFromZero positive above power negative
  cases mode with
  | nearestEven =>
    exact (format.ordinalOf_nearestEven negative above).isNearestRoot positive above power
      (fun even _ => even) (fun even _ => even)
  | nearestAway =>
    refine (format.ordinalOf_nearestAway negative above).isNearestRoot positive above power
      (fun _ _ => trivial) fun up down => ?_
    omega
  | towardZero => exact below
  | awayFromZero => exact least
  | up | down =>
    cases negative
    · first | exact least | exact below
    · first | exact least | exact below

/-- A rounded root is inexact if its power is not the radicand. -/
theorem roundReal_inexact_iff_pow (mode : Mode) (negative : Bool) :
    (format.roundReal mode negative root).flags.inexact = true ↔
      format.isInfinite (format.roundReal mode negative root).pattern = true ∨
        |format.realOf (format.roundReal mode negative root).pattern| ^ degree ≠ radicand := by
  have rounding := format.roundReal_isRounding mode negative above
  rw [rounding.inexact]
  by_cases infinite : format.isInfinite (format.roundReal mode negative root).pattern = true
  · refine iff_of_true ?_ (Or.inl infinite)
    rw [valueOf, if_pos infinite]
    cases format.isNegative (format.roundReal mode negative root).pattern
    · exact (EReal.coe_ne_top _).symm
    · exact (EReal.coe_ne_bot _).symm
  · have finite : format.isFinite (format.roundReal mode negative root).pattern = true := by
      rw [isInfinite_iff] at infinite
      rw [isFinite_iff]
      exact lt_of_le_of_ne ((format.isNaN_eq_false_iff _).mp rounding.isNumber) infinite
    have sign : format.realOf (format.roundReal mode negative root).pattern =
        signed negative (format.magnitudeOf (format.roundReal mode negative root).pattern) := by
      rw [realOf, rounding.sign]
    have nonneg : 0 ≤ format.magnitudeOf (format.roundReal mode negative root).pattern := by
      rw [magnitudeOf_eq]
      exact format.magnitudeAt_nonneg _
    rw [or_iff_right infinite, format.valueOf_of_finite finite, Ne, Ne, EReal.coe_eq_coe_iff, sign,
      signed_inj, abs_signed, abs_of_nonneg nonneg, ← power,
      pow_left_inj₀ nonneg above.le positive.ne']

/-- Pattern and exceptions of a rounded root, by the powers of the magnitudes. -/
theorem roundReal_isRoundedRoot (mode : Mode) (negative : Bool) :
    format.IsRoundedRoot mode negative degree radicand (format.ordinalOf mode negative root)
      (format.roundReal mode negative root) where
  isRoot := isRootIn_ordinalOf positive above power mode negative
  pattern := format.roundReal_pattern mode negative root
  inexact := roundReal_inexact_iff_pow positive above power mode negative
  underflow := by
    rw [(format.roundReal_isRounding mode negative above).underflow, ← power,
      pow_lt_pow_iff_left₀ above.le (by positivity) positive.ne']
  overflow := format.roundReal_overflow mode negative root
  noOther := format.roundReal_noOther mode negative root

end

/-! ## Roots of values -/

variable (format) in
theorem two_pow_emax_le_last :
    (2 : ℝ) ^ format.emax ≤ format.magnitudeAt (format.infinityOrdinal - 1) := by
  have next := format.magnitudeAt_succ (format.infinityOrdinal - 1)
  rw [Nat.sub_add_cancel format.infinityOrdinal_pos, placeAt_last, magnitudeAt_infinityOrdinal,
    zpow_add_one₀ two_ne_zero] at next
  have unit : (2 : ℝ) ^ (format.emax - format.fractionBits) ≤ 2 ^ format.emax :=
    zpow_le_zpow_right₀ one_le_two (by omega)
  linarith

section

variable (several : 2 ≤ degree) (above : 0 < root) (power : root ^ degree = radicand)

include several above power

/-- The root of a number up to the end of the range does not overflow. -/
theorem ordinalOf_lt_of_root (mode : Mode) (negative : Bool)
    (below : radicand < 2 ^ (format.emax + 1)) :
    format.ordinalOf mode negative root < format.infinityOrdinal := by
  have range := format.one_le_emax
  have small : root ≤ 2 ^ format.emax := by
    by_contra large
    have less := pow_lt_pow_left₀ (not_le.mp large) (by positivity) (by omega : degree ≠ 0)
    have exponent : format.emax + 1 ≤ format.emax * degree := by nlinarith
    have top : (2 : ℝ) ^ (format.emax + 1) ≤ (2 ^ format.emax) ^ degree := by
      rw [← zpow_natCast, ← zpow_mul]
      exact zpow_le_zpow_right₀ one_le_two exponent
    linarith
  have finite := (format.le_magnitudeAt_iff negative above (format.infinityOrdinal - 1)).mp
    (small.trans format.two_pow_emax_le_last)
  have away := format.ordinalOf_le_awayFromZero mode negative above
  have positive := format.infinityOrdinal_pos
  omega

/-- The root of a value that is not zero is in the range of normal numbers. It is so if the
significand is shorter than the range of exponents. -/
theorem roundReal_flags_of_root (mode : Mode) (negative : Bool)
    (narrow : format.fractionBits < format.emax) (lowest : 2 ^ format.lowestPlace ≤ radicand)
    (below : radicand < 2 ^ (format.emax + 1)) :
    (format.roundReal mode negative root).flags.underflow = false ∧
      (format.roundReal mode negative root).flags.overflow = false := by
  have isRoot : format.IsRoundedRoot mode negative degree radicand
      (format.ordinalOf mode negative root) (format.roundReal mode negative root) :=
    roundReal_isRoundedRoot (two_pos.trans_le several) above power mode negative
  constructor
  · rw [Bool.eq_false_iff, Ne, isRoot.underflow, not_and, not_lt]
    intro _
    have place : format.emin * degree ≤ format.lowestPlace := by
      have range := format.one_le_emax
      unfold lowestPlace emin
      nlinarith
    refine le_trans ?_ lowest
    rw [← zpow_natCast, ← zpow_mul]
    exact zpow_le_zpow_right₀ one_le_two place
  · rw [Bool.eq_false_iff, Ne, isRoot.overflow, not_le]
    exact ordinalOf_lt_of_root several above power mode negative below

end

end LibmAudit.Format
