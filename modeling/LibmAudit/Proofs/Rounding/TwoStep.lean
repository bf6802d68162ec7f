/-
**Rounding in two steps.**

A number is first cut toward zero with two bits more than a format has, and what is cut off leaves a
sticky bit. Rounding the cut number into the format then gives what rounding the number once gives.

* `Format.truncated`: the first step.
* `Format.roundReal_eq_of_standsFor`: numbers with the same digits and sticky bit are rounded alike.
* `Format.round_widened`: the second step, for a cut number that is written in any way.
-/

import LibmAudit.Proofs.Dyadic
import LibmAudit.Proofs.Rounding.Unique

namespace LibmAudit

attribute [local instance (high)] instPowNat

namespace Format

variable (format : Format) {x : ℝ}

/-- A positive number cut toward zero with two bits more than the format has. -/
noncomputable def truncated (format : Format) (x : ℝ) : ℝ :=
  Mode.towardZero.roundToPrecision false (format.precision + 2) x

/-! ## Cutting -/

/-- The exponent of the last bit that is left. -/
noncomputable def cutPlace (format : Format) (x : ℝ) : ℤ :=
  Int.log 2 x + 1 - (format.precision + 2 : ℕ)

/-- The bits that are left. -/
noncomputable def cutSignificand (format : Format) (x : ℝ) : ℕ :=
  ⌊x / 2 ^ format.cutPlace x⌋₊

theorem truncated_eq (x : ℝ) :
    format.truncated x = format.cutSignificand x * 2 ^ format.cutPlace x := rfl

theorem truncated_le (positive : 0 < x) : format.truncated x ≤ x := by
  rw [format.truncated_eq, ← le_div_iff₀ (by positivity)]
  exact Nat.floor_le (by positivity)

theorem lt_truncated_add (x : ℝ) :
    x < (format.cutSignificand x + 1) * 2 ^ format.cutPlace x := by
  rw [← div_lt_iff₀ (by positivity)]
  exact Nat.lt_floor_add_one _

theorem cutSignificand_lt (positive : 0 < x) :
    format.cutSignificand x < 2 ^ (format.precision + 2) := by
  have top : x < 2 ^ (Int.log 2 x + 1) := by exact_mod_cast Int.lt_zpow_succ_log_self one_lt_two x
  refine (Nat.floor_lt (by positivity)).mpr ?_
  rw [div_lt_iff₀ (by positivity), Nat.cast_pow, Nat.cast_ofNat, ← zpow_natCast,
    ← zpow_add₀ two_ne_zero, cutPlace, add_sub_cancel]
  exact top

theorem le_cutSignificand (positive : 0 < x) :
    2 ^ (format.precision + 1) ≤ format.cutSignificand x := by
  have bottom : (2 : ℝ) ^ Int.log 2 x ≤ x := by
    exact_mod_cast Int.zpow_log_le_self one_lt_two positive
  have place : ((format.precision + 1 : ℕ) : ℤ) + format.cutPlace x = Int.log 2 x := by
    unfold cutPlace
    push_cast
    ring
  refine Nat.le_floor ?_
  rw [le_div_iff₀ (by positivity), Nat.cast_pow, Nat.cast_ofNat, ← zpow_natCast,
    ← zpow_add₀ two_ne_zero, place]
  exact bottom

theorem bitLength_cutSignificand (positive : 0 < x) :
    bitLength (format.cutSignificand x) = format.precision + 2 := by
  have := lt_bitLength_iff.mpr (format.le_cutSignificand positive)
  have := bitLength_le_iff.mpr (format.cutSignificand_lt positive)
  omega

theorem cutSignificand_ne_zero (positive : 0 < x) : format.cutSignificand x ≠ 0 := by
  have := Nat.two_pow_pos (format.precision + 1)
  have := format.le_cutSignificand positive
  omega

/-- The bits that are left and the sticky bit stand for the number. -/
theorem standsFor_cut {sticky : Bool} (positive : 0 < x)
    (isSticky : sticky = true ↔ format.truncated x ≠ x) :
    StandsFor (format.cutSignificand x) (format.cutPlace x) sticky x := by
  unfold StandsFor
  split
  · next inexact =>
    have below := lt_of_le_of_ne (format.truncated_le positive) (isSticky.mp inexact)
    exact ⟨below, format.lt_truncated_add x⟩
  · next exact =>
    rw [isSticky, not_not] at exact
    exact exact.symm

/-! ## Rounding what is left -/

variable {format}

/-- Numbers that the same digits and sticky bit stand for are rounded alike. -/
theorem roundReal_eq_of_standsFor (mode : Mode) (negative : Bool) {significand : ℕ} {exponent : ℤ}
    {sticky : Bool} {other : ℝ} (given : StandsFor significand exponent sticky x)
    (given' : StandsFor significand exponent sticky other) (positive : significand ≠ 0)
    (room : 0 < format.placeFor significand exponent - exponent ∨ sticky = false) :
    format.roundReal mode negative x = format.roundReal mode negative other := by
  rw [← roundAt_eq mode negative given positive room, roundAt_eq mode negative given' positive room]

variable (format) in
/-- Two bits more than the precision reach below the last place of any result. -/
theorem room_of_precision_lt {significand : ℕ} (exponent : ℤ)
    (wide : format.precision < bitLength significand) :
    0 < format.placeFor significand exponent - exponent := by
  have := format.fractionBits_add_one
  unfold placeFor leadingExponent
  omega

/-- A sticky bit below the last bit of the cut number stands for the number as well as one far
below: what the number has in between is not looked at. -/
theorem roundReal_eq_of_finer (mode : Mode) (negative : Bool) {significand : ℕ} {exponent : ℤ}
    {sticky : Bool} {other : ℝ} (positive : 0 < x)
    (isSticky : sticky = true ↔ format.truncated x ≠ x)
    (same : significand * 2 ^ exponent = format.truncated x)
    (finer : exponent ≤ format.cutPlace x)
    (given : StandsFor significand exponent sticky other) :
    format.roundReal mode negative other = format.roundReal mode negative x := by
  have coarse : StandsFor (format.cutSignificand x) (format.cutPlace x) sticky other := by
    have unit : (2 : ℝ) ^ exponent ≤ 2 ^ format.cutPlace x := zpow_le_zpow_right₀ one_le_two finer
    unfold StandsFor at given ⊢
    rw [add_one_mul, same] at given
    rw [add_one_mul, ← format.truncated_eq]
    cases sticky
    · exact given
    · exact ⟨given.1, given.2.trans_le (by linarith)⟩
  refine roundReal_eq_of_standsFor mode negative coarse (format.standsFor_cut positive isSticky)
    (format.cutSignificand_ne_zero positive) (Or.inl (format.room_of_precision_lt _ ?_))
  rw [format.bitLength_cutSignificand positive]
  omega

theorem exists_standsFor (significand : ℕ) (exponent : ℤ) (sticky : Bool) :
    ∃ other : ℝ, StandsFor significand exponent sticky other := by
  have unit : (0 : ℝ) < 2 ^ exponent := by positivity
  cases sticky
  · exact ⟨significand * 2 ^ exponent, rfl⟩
  · refine ⟨(significand + 1 / 2) * 2 ^ exponent, ?_, ?_⟩
    · exact mul_lt_mul_of_pos_right (by linarith) unit
    · exact mul_lt_mul_of_pos_right (by linarith) unit

end Format

/-! ## Any way to write the cut number -/

namespace Number

variable (format : Format)

theorem widened_magnitude (value : Dyadic) :
    (widened format value).magnitude = value.magnitude := by
  have split : value.exponent =
      ((format.precision + 2 - bitLength value.significand : ℕ) : ℤ) +
        (value.exponent - (format.precision + 2 - bitLength value.significand : ℕ)) := by
    omega
  unfold Dyadic.magnitude widened
  dsimp only
  conv_rhs => rw [split, zpow_add₀ two_ne_zero, zpow_natCast]
  push_cast
  ring

theorem bitLength_widened {value : Dyadic} (positive : value.significand ≠ 0) :
    bitLength (widened format value).significand =
      max (bitLength value.significand) (format.precision + 2) := by
  unfold widened
  rw [bitLength_mul_two_pow positive]
  omega

theorem widened_top {value : Dyadic} (positive : value.significand ≠ 0) :
    (widened format value).top = value.top := by
  have length := bitLength_widened format positive
  unfold Dyadic.top
  rw [length]
  unfold widened
  dsimp only
  omega

end Number

namespace Format

variable (format : Format) {x : ℝ}

theorem log_truncated (positive : 0 < x) :
    Int.log 2 (format.truncated x) = format.cutPlace x + format.precision + 1 := by
  have exact : StandsFor (format.cutSignificand x) (format.cutPlace x) false
      (format.truncated x) := rfl
  rw [exact.log_eq (format.cutSignificand_ne_zero positive), leadingExponent,
    format.bitLength_cutSignificand positive]
  push_cast
  ring

theorem truncated_pos (positive : 0 < x) : 0 < format.truncated x := by
  have : (0 : ℝ) < format.cutSignificand x := by
    exact_mod_cast Nat.pos_of_ne_zero (format.cutSignificand_ne_zero positive)
  rw [format.truncated_eq]
  positivity

variable {format} in
/-- The cut number is rounded as the number itself, however many bits it is written with. Its
exponent is in the range of multiprecision numbers. -/
theorem round_widened (mode : Mode) (negative : Bool) {value : Dyadic} {sticky : Bool}
    (positive : 0 < x) (isSticky : sticky = true ↔ format.truncated x ≠ x)
    (same : value.magnitude = format.truncated x) (inRange : -exponentLimit ≤ value.top)
    (stored : bitLength value.significand < format.precision + storageLimit / 2) :
    format.round mode negative (Number.widened format value).significand
      (Number.widened format value).exponent sticky = .ok (format.roundReal mode negative x) := by
  have nonzero : value.significand ≠ 0 := by
    rw [Dyadic.significand_ne_zero_iff, same]
    exact (format.truncated_pos positive).ne'
  have length := Number.bitLength_widened format nonzero
  have wide : (Number.widened format value).significand ≠ 0 := by
    rw [Dyadic.significand_ne_zero_iff, Number.widened_magnitude format, same]
    exact (format.truncated_pos positive).ne'
  have top : (Number.widened format value).exponent +
      bitLength (Number.widened format value).significand = value.top :=
    Number.widened_top format nonzero
  have place : value.top - 1 = format.cutPlace x + format.precision + 1 := by
    rw [← format.log_truncated positive, ← same, Dyadic.log_magnitude nonzero]
  obtain ⟨other, given⟩ := exists_standsFor (Number.widened format value).significand
    (Number.widened format value).exponent sticky
  have room := format.room_of_precision_lt (Number.widened format value).exponent
    (show format.precision < bitLength (Number.widened format value).significand by omega)
  rw [round_eq mode negative given wide (Or.inl room) ?_]
  · refine congrArg Except.ok (roundReal_eq_of_finer mode negative positive isSticky ?_ ?_ given)
    · exact (Number.widened_magnitude format value).trans same
    · omega
  · have width := format.fractionBits_add_one
    have range := format.one_le_emax
    have limit := storageLimit_eq
    unfold exponentLimit at inRange
    unfold placeFor leadingExponent emin
    omega

end Format

/-! ## Multiprecision numbers -/

/-- Without its trailing zeros the cut number has no more bits than were left. -/
theorem Dyadic.bitLength_reduced_le {format : Format} {value : Dyadic} {x : ℝ} (positive : 0 < x)
    (same : value.magnitude = format.truncated x) :
    bitLength value.reduced.significand ≤ format.precision + 2 := by
  have nonzero : value.significand ≠ 0 := by
    rw [significand_ne_zero_iff, same]
    exact (format.truncated_pos positive).ne'
  have least : value.reduced.significand ≤ format.cutSignificand x := by
    have written : value.reduced.magnitude =
        (⟨false, format.cutSignificand x, format.cutPlace x⟩ : Dyadic).magnitude := by
      rw [reduced_magnitude, same]
      rfl
    exact significand_le_of_odd (reduced_odd nonzero) written
  exact bitLength_le_iff.mpr (least.trans_lt (format.cutSignificand_lt positive))

theorem Dyadic.reduced_top {value : Dyadic} (positive : value.significand ≠ 0) :
    value.reduced.top = value.top := by
  have nonzero : value.reduced.significand ≠ 0 := by
    rw [significand_ne_zero_iff, reduced_magnitude, ← significand_ne_zero_iff]
    exact positive
  have same := log_magnitude nonzero
  rw [reduced_magnitude, log_magnitude positive] at same
  omega

/-- A number that is cut toward zero with two bits more than the format has, and whether something
was cut off, give the correct rounding of the number in every mode. This holds for the cut number
without trailing zeros, and for it with as many of them as memory holds. -/
theorem Number.toPattern_truncated (format : Format) (mode : Mode) {y : ℝ} {value : Dyadic}
    {sticky : Bool} (nonzero : y ≠ 0)
    (cut : value.toReal = signed (decide (y < 0)) (format.truncated |y|))
    (isSticky : sticky = true ↔ value.toReal ≠ y) (inRange : -exponentLimit ≤ value.top) :
    ∃ result, toPattern format mode (.finite value) sticky (format.precision + 2) = .ok result ∧
      (bitLength value.significand < format.precision + storageLimit / 2 →
        format.round mode value.negative (widened format value).significand
          (widened format value).exponent sticky = .ok result) ∧
      format.IsRounding mode (decide (y < 0)) |y| result ∧
      ∀ other, format.IsRounding mode (decide (y < 0)) |y| other → other = result := by
  have positive := abs_pos.mpr nonzero
  have cut_pos := format.truncated_pos positive
  have nonneg : 0 ≤ value.magnitude := by
    unfold Dyadic.magnitude
    positivity
  obtain ⟨sign, same⟩ := signed_eq_signed nonneg cut_pos cut
  have isSticky' : sticky = true ↔ format.truncated |y| ≠ |y| := by
    have exact : signed (decide (y < 0)) (format.truncated |y|) = y ↔
        format.truncated |y| = |y| := by
      conv_lhs => rhs; rw [← signed_abs y]
      exact signed_inj
    rw [isSticky, cut, Ne, exact]
  have stripped := Format.round_widened mode value.negative positive isSticky'
    (value.reduced_magnitude.trans same)
    (by rwa [Dyadic.reduced_top (Dyadic.significand_ne_zero_iff.mpr (same ▸ cut_pos.ne'))])
    ((Dyadic.bitLength_reduced_le positive same).trans_lt
      (Nat.add_lt_add_left (by decide) format.precision))
  have rounding := format.roundReal_isRounding mode value.negative positive
  rw [sign] at rounding
  refine ⟨_, stripped, fun stored => ?_, sign ▸ rounding, fun other correct => ?_⟩
  · exact Format.round_widened mode value.negative positive isSticky' same inRange stored
  · rw [sign]
    exact correct.unique rounding

/-- A number a little beyond the middle of two values, cut to one of eleven bits. -/
theorem Number.toPattern_truncated_half :
    (-(8193 / 8 + 1 / 100) : ℝ) ≠ 0 ∧
      (⟨true, 1, 10⟩ : Dyadic).toReal =
        signed (decide ((-(8193 / 8 + 1 / 100) : ℝ) < 0))
          (Format.half.truncated |-(8193 / 8 + 1 / 100)|) ∧
      (true = true ↔ (⟨true, 1, 10⟩ : Dyadic).toReal ≠ -(8193 / 8 + 1 / 100)) ∧
      -exponentLimit ≤ (⟨true, 1, 10⟩ : Dyadic).top ∧
      Format.half.IsRounding .down (decide ((-(8193 / 8 + 1 / 100) : ℝ) < 0))
        |-(8193 / 8 + 1 / 100)| ⟨58369, { inexact := true }⟩ := by
  have magnitude : |(-(8193 / 8 + 1 / 100) : ℝ)| = 8193 / 8 + 1 / 100 := by
    rw [abs_neg, abs_of_pos (by norm_num)]
  have place : Format.half.cutPlace (8193 / 8 + 1 / 100) = -2 := by
    have log : Int.log 2 (8193 / 8 + 1 / 100 : ℝ) = 10 := by
      have floor : ⌊(8193 / 8 + 1 / 100 : ℝ)⌋₊ = 1024 := by
        rw [Nat.floor_eq_iff (by norm_num)]
        norm_num
      rw [Int.log_of_one_le_right 2 (by norm_num), floor]
      norm_num
    rw [Format.cutPlace, log]
    decide
  have significand : Format.half.cutSignificand (8193 / 8 + 1 / 100) = 4096 := by
    rw [Format.cutSignificand, place, Nat.floor_eq_iff (by positivity)]
    norm_num
  have cut : (⟨true, 1, 10⟩ : Dyadic).toReal =
      signed (decide ((-(8193 / 8 + 1 / 100) : ℝ) < 0))
        (Format.half.truncated |-(8193 / 8 + 1 / 100)|) := by
    rw [magnitude, Format.truncated_eq, place, significand, decide_eq_true (by norm_num)]
    simp only [Dyadic.toReal, Dyadic.magnitude, signed, if_true]
    norm_num
  have isSticky : true = true ↔
      (⟨true, 1, 10⟩ : Dyadic).toReal ≠ -(8193 / 8 + 1 / 100) := by
    simp only [Dyadic.toReal, Dyadic.magnitude, signed, if_true]
    norm_num
  have inRange : -exponentLimit ≤ (⟨true, 1, 10⟩ : Dyadic).top := by decide
  have nonzero : (-(8193 / 8 + 1 / 100) : ℝ) ≠ 0 := by norm_num
  obtain ⟨result, pattern, -, rounding, -⟩ :=
    Number.toPattern_truncated Format.half .down nonzero cut isSticky inRange
  have evaluated : toPattern Format.half .down (.finite ⟨true, 1, 10⟩) true
      (Format.half.precision + 2) = .ok ⟨58369, { inexact := true }⟩ := by rfl
  rw [evaluated] at pattern
  obtain rfl := Except.ok.inj pattern
  exact ⟨nonzero, cut, isSticky, inRange, rounding⟩

end LibmAudit
