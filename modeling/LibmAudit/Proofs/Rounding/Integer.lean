/-
**Rounding to an integer.**

* `Describes`: a remainder and a sticky bit as the part of a magnitude beyond an integer.
* `Describes.roundToInteger_eq`: the decision that `Mode.roundsAway` takes on the remainder rounds
  the magnitude to an integer.
* `Mode.roundToInteger_natCast`, `le_roundToInteger`, `roundToInteger_le`: integers stay, and a
  number between two of them stays there.
* `Format.cut_kept`, `cut_inexact`: cutting off bits rounds the quotient by a power of two, and it
  is inexact when the quotient is no integer.
-/

import LibmAudit.Proofs.Rounding.Basic

namespace LibmAudit

attribute [local instance (high)] instPowNat

/-! ## Decisions on a remainder -/

/-- How a remainder, of which `half` is one half, and a sticky bit describe the part of a magnitude
beyond an integer. -/
structure Describes (x : ℝ) (kept remainder half : ℕ) (sticky : Bool) : Prop where
  half_pos : 0 < half
  below : kept ≤ x
  above : x < kept + 1
  inexact : (remainder ≠ 0 ∨ sticky = true) ↔ x ≠ kept
  less : remainder < half → x - kept < 1 / 2
  tie : remainder = half → sticky = false → x - kept = 1 / 2
  more : half < remainder ∨ (remainder = half ∧ sticky = true) → 1 / 2 < x - kept

namespace Describes

variable {x : ℝ} {kept remainder half : ℕ} {sticky : Bool}

theorem floor_eq (described : Describes x kept remainder half sticky) : ⌊x⌋₊ = kept :=
  (Nat.floor_eq_iff ((Nat.cast_nonneg _).trans described.below)).mpr
    ⟨described.below, described.above⟩

theorem ceil_eq (described : Describes x kept remainder half sticky) :
    ⌈x⌉₊ = if remainder ≠ 0 ∨ sticky = true then kept + 1 else kept := by
  by_cases inexact : remainder ≠ 0 ∨ sticky = true
  · have below := lt_of_le_of_ne described.below (described.inexact.mp inexact).symm
    rw [if_pos inexact, Nat.ceil_eq_iff (Nat.succ_ne_zero _)]
    exact ⟨by simpa using below, by exact_mod_cast described.above.le⟩
  · rw [if_neg inexact, not_not.mp (mt described.inexact.mpr inexact), Nat.ceil_natCast]

/-- The three positions of a remainder against its half. -/
theorem cases (described : Describes x kept remainder half sticky) :
    (remainder < half ∧ x - kept < 1 / 2) ∨
      (remainder = half ∧ sticky = false ∧ x - kept = 1 / 2) ∨
      ((half < remainder ∨ (remainder = half ∧ sticky = true)) ∧ 1 / 2 < x - kept) := by
  rcases lt_trichotomy remainder half with less | tie | more
  · exact Or.inl ⟨less, described.less less⟩
  · cases sticky
    · exact Or.inr (Or.inl ⟨tie, rfl, described.tie tie rfl⟩)
    · exact Or.inr (Or.inr ⟨Or.inr ⟨tie, rfl⟩, described.more (Or.inr ⟨tie, rfl⟩)⟩)
  · exact Or.inr (Or.inr ⟨Or.inl more, described.more (Or.inl more)⟩)

theorem nearestEven_eq (described : Describes x kept remainder half sticky) :
    nearestEvenInteger x =
      if half < remainder ∨ (remainder = half ∧ (sticky = true ∨ kept % 2 = 1)) then kept + 1
      else kept := by
  unfold nearestEvenInteger
  rw [described.floor_eq]
  rcases described.cases with ⟨less, position⟩ | ⟨tie, exact, position⟩ | ⟨more, position⟩
  · rw [if_pos (Or.inl position), if_neg (by omega)]
  · rcases Nat.even_or_odd kept with even | odd
    · have parity := Nat.even_iff.mp even
      rw [if_pos (Or.inr ⟨position, even⟩), if_neg (by simp [tie, exact, parity])]
    · have parity := Nat.odd_iff.mp odd
      rw [if_neg (by simp [position, odd]), if_pos (by simp [tie, parity])]
  · rw [if_neg (by rintro (less | ⟨tie, -⟩) <;> linarith), if_pos (by tauto)]

theorem nearestAway_eq (described : Describes x kept remainder half sticky) :
    ⌊x + 1 / 2⌋₊ = if half ≤ remainder then kept + 1 else kept := by
  have below := described.below
  have above := described.above
  have nonneg : 0 ≤ x + 1 / 2 := by linarith [(Nat.cast_nonneg kept : (0 : ℝ) ≤ kept)]
  by_cases away : half ≤ remainder
  · have position : 1 / 2 ≤ x - kept := by
      rcases described.cases with ⟨less, -⟩ | ⟨-, -, position⟩ | ⟨-, position⟩
      · exact absurd away (not_le.mpr less)
      · exact position.ge
      · exact position.le
    rw [if_pos away, Nat.floor_eq_iff nonneg]
    constructor <;> push_cast <;> linarith
  · have position := described.less (not_le.mp away)
    rw [if_neg away, Nat.floor_eq_iff nonneg]
    constructor <;> linarith

/-- The decision on the remainder rounds the magnitude. -/
theorem roundToInteger_eq (described : Describes x kept remainder half sticky) (mode : Mode)
    (negative : Bool) :
    (if ((remainder != 0 || sticky) && mode.roundsAway negative kept remainder half sticky) = true
      then kept + 1 else kept) = mode.roundToInteger negative x := by
  have positive := described.half_pos
  cases mode with
  | nearestEven =>
    have decision : ((remainder != 0 || sticky) &&
        Mode.nearestEven.roundsAway negative kept remainder half sticky) = true ↔
          half < remainder ∨ (remainder = half ∧ (sticky = true ∨ kept % 2 = 1)) := by
      unfold Mode.roundsAway
      cases sticky
      · simp only [Bool.or_false, bne_iff_ne, Bool.and_eq_true, Bool.or_eq_true, beq_iff_eq,
          decide_eq_true_eq, Bool.false_or, Bool.false_eq_true, false_or]
        omega
      · simp
    rw [Mode.roundToInteger, described.nearestEven_eq]
    exact if_congr decision rfl rfl
  | nearestAway =>
    have decision : ((remainder != 0 || sticky) &&
        Mode.nearestAway.roundsAway negative kept remainder half sticky) = true ↔
          half ≤ remainder := by
      simp only [Mode.roundsAway, Bool.and_eq_true, Bool.or_eq_true, bne_iff_ne, decide_eq_true_eq]
      omega
    rw [Mode.roundToInteger, described.nearestAway_eq]
    exact if_congr decision rfl rfl
  | up =>
    cases negative
    · simp [Mode.roundsAway, Mode.roundToInteger, described.ceil_eq]
    · simp [Mode.roundsAway, Mode.roundToInteger, described.floor_eq]
  | down =>
    cases negative
    · simp [Mode.roundsAway, Mode.roundToInteger, described.floor_eq]
    · simp [Mode.roundsAway, Mode.roundToInteger, described.ceil_eq]
  | towardZero => simp [Mode.roundsAway, Mode.roundToInteger, described.floor_eq]
  | awayFromZero => simp [Mode.roundsAway, Mode.roundToInteger, described.ceil_eq]

end Describes

/-! ## Bounds -/

namespace Mode

variable (mode : Mode) (negative : Bool)

theorem nearestEvenInteger_natCast (n : ℕ) : nearestEvenInteger n = n := by
  simp [nearestEvenInteger]

theorem roundToInteger_natCast (n : ℕ) : mode.roundToInteger negative n = n := by
  have half : ⌊(n : ℝ) + 1 / 2⌋₊ = n := by
    rw [Nat.floor_eq_iff (by positivity)]
    constructor <;> linarith
  cases mode <;> cases negative <;> simp [roundToInteger, nearestEvenInteger_natCast] at half ⊢
  all_goals exact half

/-- An integer up to a magnitude stays up to it. -/
theorem le_roundToInteger {n : ℕ} {x : ℝ} (le : n ≤ x) : n ≤ mode.roundToInteger negative x := by
  have floor : n ≤ ⌊x⌋₊ := Nat.le_floor le
  have ceil : n ≤ ⌈x⌉₊ := by exact_mod_cast le.trans (Nat.le_ceil x)
  have half : n ≤ ⌊x + 1 / 2⌋₊ := Nat.le_floor (by linarith)
  have even : n ≤ nearestEvenInteger x := by
    unfold nearestEvenInteger
    split
    · exact floor
    · exact floor.trans (Nat.le_succ _)
  cases mode <;> cases negative <;> assumption

/-- A magnitude up to an integer stays up to it. -/
theorem roundToInteger_le {n : ℕ} {x : ℝ} (nonneg : 0 ≤ x) (le : x ≤ n) :
    mode.roundToInteger negative x ≤ n := by
  have floor : ⌊x⌋₊ ≤ n := Nat.floor_le_of_le le
  have ceil : ⌈x⌉₊ ≤ n := Nat.ceil_le.mpr le
  have half : ⌊x + 1 / 2⌋₊ ≤ n :=
    Nat.lt_succ_iff.mp ((Nat.floor_lt (by positivity)).mpr (by push_cast; linarith))
  have even : nearestEvenInteger x ≤ n := by
    unfold nearestEvenInteger
    split
    · exact floor
    · next far =>
      -- At the integer itself nothing is left over, so the next integer is not taken.
      refine Nat.succ_le_of_lt (lt_of_le_of_ne floor fun same => far (Or.inl ?_))
      rw [same]
      linarith
  cases mode <;> cases negative <;> assumption

end Mode

/-! ## Cutting off bits -/

/-- What a sticky bit adds is a part of a unit. -/
theorem StandsFor.exists_excess {significand : ℕ} {exponent : ℤ} {sticky : Bool} {x : ℝ}
    (given : StandsFor significand exponent sticky x) :
    ∃ excess : ℝ, 0 ≤ excess ∧ excess < 1 ∧ (sticky = true ↔ excess ≠ 0) ∧
      x = (significand + excess) * 2 ^ exponent := by
  have positive : (0 : ℝ) < 2 ^ exponent := by positivity
  refine ⟨x / 2 ^ exponent - significand, ?_⟩
  rw [add_sub_cancel, div_mul_cancel₀ _ positive.ne']
  cases sticky
  · have exact : x / 2 ^ exponent = significand := by
      rw [StandsFor, if_neg Bool.false_ne_true] at given
      rw [given, mul_div_cancel_right₀ _ positive.ne']
    simp [exact]
  · rw [StandsFor, if_pos rfl, ← lt_div_iff₀ positive, ← div_lt_iff₀ positive] at given
    exact ⟨by linarith, by linarith, iff_of_true rfl (by linarith), rfl⟩

/-- A remainder and the part that a sticky bit adds, over twice one half. -/
theorem describes_of_excess {kept remainder half : ℕ} {sticky : Bool} {excess : ℝ}
    (half_pos : 0 < half) (bound : remainder < 2 * half) (nonneg : 0 ≤ excess) (small : excess < 1)
    (isSticky : sticky = true ↔ excess ≠ 0) :
    Describes (kept + (remainder + excess) / (2 * half)) kept remainder half sticky := by
  have unit : (0 : ℝ) < 2 * half := by positivity
  have bound' : (remainder : ℝ) + 1 ≤ 2 * half := by exact_mod_cast bound
  refine ⟨half_pos, ?_, ?_, ?_, fun less => ?_, fun tie exact => ?_, fun more => ?_⟩
  · have : 0 ≤ (remainder + excess) / (2 * half) := by positivity
    linarith
  · have : (remainder + excess) / (2 * half) < 1 := by
      rw [div_lt_one unit]
      linarith
    linarith
  · have zero : (remainder + excess) / (2 * half : ℝ) = 0 ↔ remainder = 0 ∧ excess = 0 := by
      rw [div_eq_zero_iff, or_iff_left unit.ne', add_eq_zero_iff_of_nonneg (by positivity) nonneg,
        Nat.cast_eq_zero]
    rw [isSticky, ne_eq (_ + _), add_eq_left, zero]
    tauto
  · have less' : (remainder : ℝ) + 1 ≤ half := by exact_mod_cast less
    rw [add_sub_cancel_left, div_lt_div_iff₀ unit two_pos]
    linarith
  · have exact' : excess = 0 := by simpa [exact] using isSticky
    rw [tie, exact', add_sub_cancel_left, add_zero, div_eq_div_iff unit.ne' two_ne_zero]
    ring
  · rw [add_sub_cancel_left, div_lt_div_iff₀ two_pos unit]
    rcases more with more | ⟨tie, isSet⟩
    · have more' : (half : ℝ) + 1 ≤ remainder := by exact_mod_cast more
      linarith
    · have := lt_of_le_of_ne nonneg (isSticky.mp isSet).symm
      rw [tie]
      linarith

/-- The lower bits of a significand are the part beyond a multiple of a power of two. -/
theorem StandsFor.describes {significand : ℕ} {exponent : ℤ} {sticky : Bool} {x : ℝ}
    (given : StandsFor significand exponent sticky x) {width : ℕ} (positive : 0 < width) :
    Describes (x / 2 ^ (exponent + width)) (significand / 2 ^ width) (significand % 2 ^ width)
      (2 ^ (width - 1)) sticky := by
  obtain ⟨excess, nonneg, small, isSticky, rfl⟩ := given.exists_excess
  have double : 2 ^ width = 2 * 2 ^ (width - 1) := by
    rw [← pow_succ', Nat.sub_add_cancel positive]
  have split : (significand : ℝ) =
      (significand / 2 ^ width : ℕ) * 2 ^ width + (significand % 2 ^ width : ℕ) := by
    exact_mod_cast (Nat.div_add_mod' significand (2 ^ width)).symm
  have scale : (2 : ℝ) ^ width = 2 * (2 ^ (width - 1) : ℕ) := by exact_mod_cast double
  have position : (significand + excess) * 2 ^ exponent / 2 ^ (exponent + width) =
      (significand / 2 ^ width : ℕ) +
        ((significand % 2 ^ width : ℕ) + excess) / (2 * (2 ^ (width - 1) : ℕ)) := by
    rw [← scale, zpow_add₀ two_ne_zero, zpow_natCast]
    nth_rewrite 1 [split]
    field_simp
    ring
  rw [position]
  exact describes_of_excess (Nat.two_pow_pos _) (double ▸ Nat.mod_lt _ (Nat.two_pow_pos _)) nonneg
    small isSticky

/-- Beyond all bits of a significand each further one has the same effect. -/
theorem StandsFor.describes_of_wide {significand : ℕ} {exponent : ℤ} {sticky : Bool} {x : ℝ}
    (given : StandsFor significand exponent sticky x) (positive : significand ≠ 0) {width : ℕ}
    (wide : bitLength significand + 1 ≤ width) :
    Describes (x / 2 ^ (exponent + width)) 0 significand (2 ^ bitLength significand) sticky := by
  obtain ⟨excess, nonneg, small, isSticky, rfl⟩ := given.exists_excess
  have bound : (significand : ℝ) + 1 ≤ 2 ^ bitLength significand := by
    exact_mod_cast lt_two_pow_bitLength significand
  have unit : (2 : ℝ) ^ bitLength significand * 2 ≤ 2 ^ width := by
    rw [← pow_succ]
    exact pow_le_pow_right₀ one_le_two wide
  have one_le : (1 : ℝ) ≤ significand := by exact_mod_cast Nat.pos_of_ne_zero positive
  have position : (significand + excess) * 2 ^ exponent / 2 ^ (exponent + width) =
      (significand + excess) / 2 ^ width := by
    rw [zpow_add₀ two_ne_zero, zpow_natCast]
    field_simp
  have above : (0 : ℝ) < (significand + excess) / 2 ^ width := by positivity
  have below : (significand + excess) / 2 ^ width < (1 : ℝ) / 2 := by
    rw [div_lt_div_iff₀ (by positivity) two_pos]
    linarith
  have less := lt_two_pow_bitLength significand
  rw [position]
  refine ⟨Nat.two_pow_pos _, ?_, ?_, ?_, fun _ => ?_, fun tie => ?_, fun more => ?_⟩
  · simpa using above.le
  · simp only [Nat.cast_zero]
    linarith
  · simpa [positive] using above.ne'
  · simpa using below
  · omega
  · omega

namespace Format

/-- What the bits that are cut off describe. -/
theorem describes_cut {significand shift : ℕ} {exponent : ℤ} {sticky : Bool} {x : ℝ}
    (given : StandsFor significand exponent sticky x) (positive : significand ≠ 0)
    (room : 0 < shift) :
    let width := min shift (bitLength significand + 1)
    Describes (x / 2 ^ (exponent + shift)) (significand / 2 ^ width) (significand % 2 ^ width)
      (2 ^ (width - 1)) sticky := by
  rcases Nat.le_total shift (bitLength significand + 1) with narrow | wide
  · rw [min_eq_left narrow]
    exact given.describes room
  · have small : significand < 2 ^ (bitLength significand + 1) :=
      bitLength_le_iff.mp (Nat.le_succ _)
    rw [min_eq_right wide]
    dsimp only
    rw [Nat.div_eq_of_lt small, Nat.mod_eq_of_lt small, Nat.add_sub_cancel]
    exact given.describes_of_wide positive wide

/-- Cutting off bits rounds the quotient by a power of two. -/
theorem cut_kept (mode : Mode) (negative : Bool) {significand shift : ℕ} {exponent : ℤ}
    (place : ℤ) {sticky : Bool} {x : ℝ} (given : StandsFor significand exponent sticky x)
    (positive : significand ≠ 0) (room : 0 < shift) :
    (cut mode negative significand shift place sticky).kept =
      mode.roundToInteger negative (x / 2 ^ (exponent + shift)) :=
  (describes_cut given positive room).roundToInteger_eq mode negative

/-- Cutting off bits is inexact when the quotient is no integer. -/
theorem cut_inexact (mode : Mode) (negative : Bool) {significand shift : ℕ} {exponent : ℤ}
    (place : ℤ) {sticky : Bool} {x : ℝ} (given : StandsFor significand exponent sticky x)
    (positive : significand ≠ 0) (room : 0 < shift) :
    (cut mode negative significand shift place sticky).inexact = true ↔
      x / 2 ^ (exponent + shift) ≠ ⌊x / 2 ^ (exponent + shift)⌋₊ := by
  have described := describes_cut given positive room
  rw [described.floor_eq, ← described.inexact]
  simp [cut]

end Format

end LibmAudit
