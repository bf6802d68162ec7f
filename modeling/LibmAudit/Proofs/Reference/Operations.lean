/-
**Operations that round once.**

Where the outcome of a multiprecision operation is a number in the exponent range that is not zero,
the response is the correct rounding of that number.

* `Format.realOf_eq_units`, `abs_realOf_lt`: finite values are multiples of the lowest place.
  `Format.two_pow_le_abs_of_multiple`, `log_bounds_of_multiple`: where the leading digit is.
* `Number.sub_inRange`: differences of values are in the exponent range.
* `Response.Rounds`: a response that is a number rounded correctly.
* `Operation.respond_zero`, `respond_infinity`, `respond_nan`: the responses that are not rounded.
* `Reference.operation_rounds`: an operation is its outcome, rounded once.
-/

import LibmAudit.Proofs.Multiprecision.Exact
import LibmAudit.Proofs.Order.Finite

namespace LibmAudit

attribute [local instance (high)] instPowNat

variable {format : Format}

/-! ## Finite values -/

namespace Format

variable {y : ℝ} {units place top : ℤ}

theorem isZero_eq_false_of_isInfinite {pattern : ℤ} (infinite : format.isInfinite pattern = true) :
    format.isZero pattern = false := by
  rw [Bool.eq_false_iff, Ne, isZero_iff, (format.isInfinite_iff pattern).mp infinite]
  exact format.infinityOrdinal_pos.ne'

theorem realOf_eq_zero_iff (pattern : ℤ) :
    format.realOf pattern = 0 ↔ format.isZero pattern = true := by
  rw [← abs_eq_zero, realOf, abs_signed, abs_eq_zero, magnitudeOf_eq, isZero_iff,
    ← format.magnitudeAt_zero, format.magnitudeAt_strictMono.injective.eq_iff]

/-- A finite value is a multiple of the lowest place. -/
theorem realOf_eq_units (pattern : ℤ) :
    ∃ units : ℤ, format.realOf pattern = units * 2 ^ format.lowestPlace := by
  refine ⟨signed (format.isNegative pattern)
    (format.unitsAt (format.magnitudeField pattern) : ℤ), ?_⟩
  rw [realOf, magnitudeOf_eq, magnitudeAt_eq_unitsAt]
  cases format.isNegative pattern <;> simp [signed]

theorem abs_realOf_lt {pattern : ℤ} (finite : format.isFinite pattern = true) :
    |format.realOf pattern| < 2 ^ (format.emax + 1) := by
  rw [realOf, abs_signed, magnitudeOf_eq, abs_of_nonneg (format.magnitudeAt_nonneg _),
    ← format.magnitudeAt_infinityOrdinal]
  exact format.magnitudeAt_strictMono ((format.isFinite_iff pattern).mp finite)

/-- A multiple of a power of two is not below that power, unless it is zero. -/
theorem two_pow_le_abs_of_multiple (multiple : y = units * 2 ^ place) (nonzero : y ≠ 0) :
    2 ^ place ≤ |y| := by
  have some : (1 : ℝ) ≤ |(units : ℝ)| := by
    rw [← Int.cast_abs]
    exact_mod_cast Int.one_le_abs fun zero => nonzero (by rw [multiple, zero, Int.cast_zero,
      zero_mul])
  rw [multiple, abs_mul, abs_of_pos (show (0 : ℝ) < 2 ^ place by positivity)]
  exact le_mul_of_one_le_left (by positivity) some

theorem log_bounds_of_multiple (multiple : y = units * 2 ^ place) (nonzero : y ≠ 0)
    (below : |y| < 2 ^ top) : place ≤ Int.log 2 |y| ∧ Int.log 2 |y| < top := by
  have positive := abs_pos.mpr nonzero
  have least := two_pow_le_abs_of_multiple multiple nonzero
  constructor
  · exact (Int.zpow_le_iff_le_log one_lt_two positive).mp (by exact_mod_cast least)
  · exact (Int.lt_zpow_iff_log_lt one_lt_two positive).mp (by exact_mod_cast below)

end Format

/-! ## Differences -/

section

variable {first second : ℕ}

/-- The leading digit of a difference of two values is in the exponent range. -/
theorem Format.log_sub_bounds (ranged : format.emax + format.fractionBits < exponentLimit)
    (finite : format.isFinite first = true) (finite' : format.isFinite second = true)
    (nonzero : format.realOf first - format.realOf second ≠ 0) :
    -exponentLimit ≤ Int.log 2 |format.realOf first - format.realOf second| ∧
      Int.log 2 |format.realOf first - format.realOf second| < exponentLimit := by
  obtain ⟨units, left⟩ := format.realOf_eq_units first
  obtain ⟨units', right⟩ := format.realOf_eq_units second
  have range := format.one_le_emax
  have width := format.fractionBits_pos
  have multiple : format.realOf first - format.realOf second =
      (units - units' : ℤ) * 2 ^ format.lowestPlace := by
    rw [left, right]
    push_cast
    ring
  have below : |format.realOf first - format.realOf second| < 2 ^ (format.emax + 2) :=
    calc |format.realOf first - format.realOf second|
        ≤ |format.realOf first| + |format.realOf second| := abs_sub _ _
      _ < 2 ^ (format.emax + 1) + 2 ^ (format.emax + 1) :=
          add_lt_add (format.abs_realOf_lt finite) (format.abs_realOf_lt finite')
      _ = 2 ^ (format.emax + 2) := by
          rw [← two_mul, ← zpow_one_add₀ two_ne_zero]
          congr 1
          ring
  have bounds := Format.log_bounds_of_multiple multiple nonzero below
  have lowest : format.lowestPlace = 1 - format.emax - format.fractionBits := rfl
  omega

/-- The difference of two values is in the exponent range. -/
theorem Number.sub_inRange (ranged : format.emax + format.fractionBits < exponentLimit)
    (fits : first < 2 ^ format.totalBits) (fits' : second < 2 ^ format.totalBits) :
    ((read format first).sub (read format second)).InRange := by
  rcases read_kinds fits with nan | ⟨negative, infinite⟩ | ⟨finite, gives⟩
  · rw [nan]
    exact .nan
  · rw [infinite]
    cases read format second with
    | nan => exact .nan
    | infinity other =>
      unfold sub add neg
      dsimp only
      split
      · exact .infinity _ _
      · exact .nan
    | zero | finite => exact .infinity _ _
  · rcases read_kinds fits' with nan | ⟨negative, infinite⟩ | ⟨finite', gives'⟩
    · rw [nan]
      cases read format first <;> exact .nan
    · rw [infinite]
      rcases gives with ⟨-, _, number⟩ | ⟨_, number, -⟩ <;> rw [number] <;> exact .infinity _ _
    · rcases gives.add gives'.neg with ⟨nonzero, value⟩ | ⟨-, cancelled | ⟨sign, -, -, zero⟩⟩
      · rw [← sub_eq_add_neg] at nonzero value
        obtain ⟨above, below⟩ := format.log_sub_bounds ranged finite finite' nonzero
        exact .number value above below
      · rw [sub, cancelled]
        exact .cancelled
      · rw [sub, zero]
        exact .zero sign

end

/-! ## Rounded responses -/

/-- The response is a number that is not zero, rounded correctly. -/
def Response.Rounds (format : Format) (mode : Mode) (y : ℝ) (response : Response) : Prop :=
  ∃ rounded, response = .ofRounded rounded ∧
    format.IsRounding mode (decide (y < 0)) |y| rounded

theorem Format.rounds_roundReal (mode : Mode) (negative : Bool) {x : ℝ} (positive : 0 < x) :
    (Response.ofRounded (format.roundReal mode negative x)).Rounds format mode
      (signed negative x) := by
  refine ⟨_, rfl, ?_⟩
  have sign : decide (signed negative x < 0) = negative := by
    cases negative
    · exact decide_eq_false positive.not_gt
    · exact decide_eq_true (neg_neg_of_pos positive)
  rw [sign, abs_signed, abs_of_pos positive]
  exact format.roundReal_isRounding mode negative positive

namespace Operation

theorem respond_zero (mode : Mode) (negative : Bool) :
    (finish format mode { number := .zero negative }).map Response.ofRounded =
      .ok (.ofPattern (format.zero negative)) :=
  congrArg (Except.map Response.ofRounded) (finish_zero mode negative)

theorem respond_infinity (mode : Mode) (negative : Bool) :
    (finish format mode { number := .infinity negative }).map Response.ofRounded =
      .ok (.ofPattern (format.infinity negative)) :=
  congrArg (Except.map Response.ofRounded) (finish_infinity mode negative)

theorem respond_nan (mode : Mode) (flags : Flags) :
    (finish format mode { number := .nan, flags := flags }).map Response.ofRounded =
      .ok (Reference.nan format flags) :=
  congrArg (Except.map Response.ofRounded) (finish_nan mode flags)

end Operation

/-- An exact outcome in the exponent range is rounded into the format. -/
theorem Operation.finish_rounds (mode : Mode) {outcome : Outcome} {y : ℝ}
    (value : outcome.HasValue y) (above : -exponentLimit ≤ Int.log 2 |y|)
    (below : Int.log 2 |y| < exponentLimit) :
    ∃ rounded, finish format mode (outcome.round (format.precision + 2) .towardZero) =
      .ok rounded ∧ (Response.ofRounded rounded).Rounds format mode y := by
  have positive := abs_pos.mpr (Dyadic.ne_zero_of_hasValue value)
  have rounds := format.rounds_roundReal mode (decide (y < 0)) positive
  rw [← signed_abs y] at value
  rw [signed_abs] at rounds
  exact ⟨_, finish_of_hasValue mode positive value above below, rounds⟩

/-- In the exponent range a number is cut to a number. -/
theorem Outcome.HasValue.round_finite (format : Format) {outcome : Outcome} {y : ℝ}
    (value : outcome.HasValue y) (above : -exponentLimit ≤ Int.log 2 |y|)
    (below : Int.log 2 |y| < exponentLimit) :
    ∃ number, (outcome.round (format.precision + 2) .towardZero).number = .finite number := by
  obtain ⟨exact, rfl, nonzero, rfl⟩ := value
  rw [Dyadic.toReal, abs_signed, abs_of_pos (Dyadic.magnitude_pos nonzero)] at above below
  have given := Dyadic.digits_determines format nonzero
  exact ⟨_, congrArg Evaluation.number
    (roundTruncation_of_inRange given above below exact.negative)⟩

namespace Reference

variable {operator : Operation} {patterns : List ℕ} {mode : Mode}

/-- Where the outcome is a number, the operation is the rounding of that number. -/
theorem operation_rounds (ranged : format.emax + format.fractionBits < exponentLimit)
    (fits : ∀ pattern ∈ patterns, pattern < 2 ^ format.totalBits)
    (count : patterns.length = operator.arity)
    (numbers : ∀ pattern ∈ patterns, format.isNaN (pattern : ℕ) = false) (mode : Mode) {y : ℝ}
    (value : (operator.apply
      (patterns.map fun pattern : ℕ => Number.read format pattern)).HasValue y)
    (above : -exponentLimit ≤ Int.log 2 |y|) (below : Int.log 2 |y| < exponentLimit) :
    ∃ response, operation operator format mode patterns = .ok response ∧
      response.Rounds format mode y := by
  obtain ⟨rounded, finished, rounds⟩ := Operation.finish_rounds mode value above below
  refine ⟨_, ?_, rounds⟩
  rw [operation_of_fits ranged fits count numbers, finished]
  rfl

end Reference

end LibmAudit
