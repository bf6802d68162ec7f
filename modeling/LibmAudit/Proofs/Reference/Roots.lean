/-
**Roots that round once.**

The square root, the cube root and the root of a sum of squares are the correct roundings of real
roots. The responses are described by these roots, and also without them, by the powers of the
magnitudes around the result.

* `Response.RoundsRoot`: a response that is a root rounded correctly.
* `Number.finish_hypot`: the root of a sum of squares, also where one of them is zero.
* `Reference.IsSqrt`, `IsCbrt`, `IsHypot`: what the three routines have to give, by the classes of
  their operands.
* `Reference.roots_correct`: the three routines.
-/

import LibmAudit.Proofs.Multiprecision.Root
import LibmAudit.Proofs.Reference.Modes
import LibmAudit.Proofs.Reference.Operations
import LibmAudit.Proofs.Reference.Parts
import LibmAudit.Proofs.Rounding.Root
import LibmAudit.Proofs.Rounding.Saturation

namespace LibmAudit

attribute [local instance (high)] instPowNat

variable {format : Format} {mode : Mode}

/-! ## Rounded roots -/

/-- The response is the real root of a number that is not zero, rounded correctly: by its distance
from the root, and by the powers of the magnitudes around it. -/
def Response.RoundsRoot (format : Format) (mode : Mode) (degree : ℕ) (y : ℝ)
    (response : Response) : Prop :=
  ∃ rounded ordinal root, response = .ofRounded rounded ∧ 0 < root ∧ root ^ degree = |y| ∧
    format.IsRounding mode (decide (y < 0)) root rounded ∧
    format.IsRoundedRoot mode (decide (y < 0)) degree |y| ordinal rounded

section

variable {degree : ℕ} {root radicand : ℝ} {place top : ℤ}

theorem exists_root (positive : 0 < degree) (above : 0 < radicand) :
    ∃ root : ℝ, 0 < root ∧ root ^ degree = radicand :=
  ⟨radicand ^ (degree⁻¹ : ℝ), Real.rpow_pos_of_pos above _,
    Real.rpow_inv_natCast_pow above.le positive.ne'⟩

/-- A root is nearer to one than the number. -/
theorem log_root_bounds (positive : 0 < degree) (above : 0 < root)
    (power : root ^ degree = radicand) (nonpos : place ≤ 0) (nonneg : 0 ≤ top)
    (lowest : 2 ^ place ≤ radicand) (below : radicand < 2 ^ top) :
    place ≤ Int.log 2 root ∧ Int.log 2 root < top := by
  subst radicand
  constructor
  · refine (Int.zpow_le_iff_le_log one_lt_two above).mp ?_
    rw [Nat.cast_ofNat]
    by_contra less
    have one : root ≤ 1 := (not_le.mp less).le.trans (zpow_le_one_of_nonpos₀ one_le_two nonpos)
    exact less (lowest.trans (pow_le_of_le_one above.le one positive.ne'))
  · refine (Int.lt_zpow_iff_log_lt one_lt_two above).mp ?_
    rw [Nat.cast_ofNat]
    by_contra more
    have one : 1 ≤ root := (one_le_zpow₀ one_le_two nonneg).trans (not_lt.mp more)
    exact more ((le_self_pow₀ one positive.ne').trans_lt below)

theorem Format.roundsRoot_roundReal (mode : Mode) (negative : Bool) (positive : 0 < degree)
    (above : 0 < root) (power : root ^ degree = radicand) :
    (Response.ofRounded (format.roundReal mode negative root)).RoundsRoot format mode degree
      (signed negative radicand) := by
  have some : 0 < radicand := power ▸ pow_pos above degree
  have sign : decide (signed negative radicand < 0) = negative := by
    cases negative
    · exact decide_eq_false some.not_gt
    · exact decide_eq_true (neg_neg_of_pos some)
  refine ⟨_, format.ordinalOf mode negative root, root, rfl, above, ?_, ?_, ?_⟩
  · rw [abs_signed, abs_of_pos some, power]
  · rw [sign]
    exact format.roundReal_isRounding mode negative above
  · rw [sign, abs_signed, abs_of_pos some]
    exact Format.roundReal_isRoundedRoot positive above power mode negative

/-- The root of a value that is not zero is rounded to a normal number. -/
theorem Operation.finish_root_of_value (mode : Mode) (negative : Bool) (several : 2 ≤ degree)
    (ranged : format.emax + format.fractionBits < exponentLimit)
    (narrow : format.fractionBits < format.emax) {ordinal : ℕ} (positive : 0 < ordinal)
    (finite : ordinal < format.infinityOrdinal) :
    ∃ rounded, finish format mode ((Outcome.magnitude negative (Truncation.ofRoot degree
        (format.significandAt ordinal) (format.placeAt ordinal))).round
          (format.precision + 2) .towardZero) = .ok rounded ∧
      (Response.ofRounded rounded).RoundsRoot format mode degree
        (signed negative (format.magnitudeAt ordinal)) ∧
      rounded.flags.underflow = false ∧ rounded.flags.overflow = false := by
  obtain ⟨least, greatest⟩ := Format.magnitudeAt_bounds positive finite
  have some : 0 < degree := two_pos.trans_le several
  obtain ⟨root, above, power⟩ := exists_root some (format.magnitudeAt_pos positive)
  have range := format.one_le_emax
  have width := format.fractionBits_pos
  have lowest : format.lowestPlace = 1 - format.emax - format.fractionBits := rfl
  obtain ⟨low, high⟩ := log_root_bounds some above power (by omega) (by omega) least greatest
  exact ⟨_, finish_root mode some (format.significandAt_ne_zero positive) above power (by omega)
    (by omega) negative, format.roundsRoot_roundReal mode negative some above power,
    Format.roundReal_flags_of_root several above power mode negative narrow least greatest⟩

end

/-! ## The root of a sum of squares -/

theorem Dyadic.abs_toReal (number : Dyadic) : number.abs.toReal = |number.toReal| := by
  have nonneg : 0 ≤ number.magnitude := by
    unfold magnitude
    positivity
  rw [toReal, toReal, abs_signed, abs_of_nonneg nonneg]
  rfl

theorem Dyadic.square_toReal (number : Dyadic) : number.square.toReal = number.toReal ^ 2 := by
  have product : number.square = number.mul number := by
    unfold square mul
    rw [bne_self_eq_false, two_mul]
  rw [product, mul_toReal, sq]

/-- The sum of two squares over one power of two. -/
theorem Dyadic.align_square (first second : Dyadic)
    (positive : 0 < first.toReal ^ 2 + second.toReal ^ 2) :
    ((first.square.align second.square).1 + (first.square.align second.square).2.1).natAbs ≠ 0 ∧
      first.toReal ^ 2 + second.toReal ^ 2 =
        ((first.square.align second.square).1 + (first.square.align second.square).2.1).natAbs *
          2 ^ (first.square.align second.square).2.2 := by
  obtain ⟨left, right⟩ := align_mul first.square second.square
  rw [square_toReal] at left right
  have unit : (0 : ℝ) < 2 ^ (first.square.align second.square).2.2 := by positivity
  have sum : first.toReal ^ 2 + second.toReal ^ 2 =
      ((first.square.align second.square).1 + (first.square.align second.square).2.1 : ℤ) *
        2 ^ (first.square.align second.square).2.2 := by
    rw [← left, ← right]
    push_cast
    ring
  have multiple : 0 < (first.square.align second.square).1 +
      (first.square.align second.square).2.1 := by
    rw [sum] at positive
    exact_mod_cast pos_of_mul_pos_left positive unit.le
  refine ⟨by omega, ?_⟩
  rw [sum, Nat.cast_natAbs, abs_of_pos multiple]

/-- The root of a sum of squares of numbers, cut and rounded. -/
theorem Number.finish_hypot (mode : Mode) {first second : Number} {y z root : ℝ}
    (gives : first.Gives y) (gives' : second.Gives z) (above : 0 < root)
    (power : root ^ 2 = y ^ 2 + z ^ 2) (lowest : -exponentLimit ≤ Int.log 2 root)
    (highest : Int.log 2 root < exponentLimit) :
    Operation.finish format mode
        ((first.hypot second).round (format.precision + 2) .towardZero) =
      .ok (format.roundReal mode false root) := by
  have some : 0 < y ^ 2 + z ^ 2 := power ▸ pow_pos above 2
  -- Where one number is zero the root is the magnitude of the other one.
  have single (value : Dyadic) (nonzero : value.significand ≠ 0)
      (same : root ^ 2 = value.toReal ^ 2) :
      Operation.finish format mode
          ((Outcome.exact value.abs).round (format.precision + 2) .towardZero) =
        .ok (format.roundReal mode false root) := by
    refine Operation.finish_of_hasValue mode above ⟨value.abs, rfl, nonzero, ?_⟩ lowest highest
    rw [value.abs_toReal, ← (sq_eq_sq_iff_abs_eq_abs _ _).mp same]
    exact abs_of_pos above
  rcases gives with ⟨rfl, negative, rfl⟩ | ⟨value, rfl, nonzero, rfl⟩ <;>
    rcases gives' with ⟨rfl, negative', rfl⟩ | ⟨value', rfl, nonzero', rfl⟩
  · exact absurd some (by norm_num)
  · exact single value' nonzero' (by rw [power, zero_pow two_ne_zero, zero_add])
  · exact single value nonzero (by rw [power, zero_pow two_ne_zero, add_zero])
  · obtain ⟨significand, sum⟩ := value.align_square value' some
    exact Operation.finish_root mode two_pos significand above (power.trans sum) lowest highest
      false

/-! ## What roots have to be -/

namespace Reference

/-- The square root in a mode, by the class of the operand. -/
inductive IsSqrt (format : Format) (mode : Mode) (pattern : ℕ) : Response → Prop
  | nan (nan : format.isNaN pattern = true) : IsSqrt format mode pattern (Reference.nan format)
  | zero (zero : format.isZero pattern = true) : IsSqrt format mode pattern (.ofPattern pattern)
  | invalid (number : format.isNaN pattern = false) (nonzero : format.isZero pattern = false)
      (negative : format.isNegative pattern = true) :
      IsSqrt format mode pattern (Reference.nan format invalid)
  | infinite (infinite : pattern = format.infinity false) :
      IsSqrt format mode pattern (.ofPattern (format.infinity false))
  | root (finite : format.isFinite pattern = true) (positive : 0 < format.realOf pattern)
      {response : Response} (rounds : response.RoundsRoot format mode 2 (format.realOf pattern)) :
      IsSqrt format mode pattern response

/-- The cube root in a mode, by the class of the operand. -/
inductive IsCbrt (format : Format) (mode : Mode) (pattern : ℕ) : Response → Prop
  | nan (nan : format.isNaN pattern = true) : IsCbrt format mode pattern (Reference.nan format)
  | kept (given : format.isZero pattern = true ∨ format.isInfinite pattern = true) :
      IsCbrt format mode pattern (.ofPattern pattern)
  | root (finite : format.isFinite pattern = true) (nonzero : format.realOf pattern ≠ 0)
      {response : Response} (rounds : response.RoundsRoot format mode 3 (format.realOf pattern)) :
      IsCbrt format mode pattern response

/-- The root of a sum of squares in a mode, by the classes of the operands. -/
inductive IsHypot (format : Format) (mode : Mode) (first second : ℕ) : Response → Prop
  | infinite (either : format.isInfinite first = true ∨ format.isInfinite second = true) :
      IsHypot format mode first second (.ofPattern (format.infinity false))
  | nan (bounded : ¬ (format.isInfinite first = true ∨ format.isInfinite second = true))
      (either : format.isNaN first = true ∨ format.isNaN second = true) :
      IsHypot format mode first second (Reference.nan format)
  | zero (both : format.isZero first = true ∧ format.isZero second = true) :
      IsHypot format mode first second (.ofPattern (format.zero false))
  | root (finite : format.isFinite first = true ∧ format.isFinite second = true)
      (nonzero : ¬ (format.isZero first = true ∧ format.isZero second = true))
      {response : Response} (rounds : response.RoundsRoot format mode 2
        (format.realOf first ^ 2 + format.realOf second ^ 2)) :
      IsHypot format mode first second response

/-! ## Square and cube roots -/

section

variable (ranged : format.emax + format.fractionBits < exponentLimit) {pattern : ℕ}
  (fits : pattern < 2 ^ format.totalBits)

include ranged fits

/-- An operation on one pattern that is no NaN is its outcome, cut and rounded. -/
theorem operation_of_number {operator : Operation} {apply : Number → Outcome}
    (unary : operator.arity = 1) (isApply : ∀ number, operator.apply [number] = apply number)
    (number : format.isNaN pattern = false) {read : Number}
    (given : Number.read format pattern = read) (mode : Mode) :
    operation operator format mode [pattern] = (Operation.finish format mode
      ((apply read).round (format.precision + 2) .towardZero)).map .ofRounded := by
  have all : ∀ other ∈ [pattern], other < 2 ^ format.totalBits := by simpa using fits
  have numbers : ∀ other ∈ [pattern], format.isNaN (other : ℕ) = false := by simpa using number
  rw [operation_of_fits ranged all unary.symm numbers mode, List.map_singleton, isApply, given]

/-- An operation that leaves the zeros as they are. -/
theorem operation_of_isZero {operator : Operation} {apply : Number → Outcome}
    (unary : operator.arity = 1) (isApply : ∀ number, operator.apply [number] = apply number)
    (keeps : ∀ negative, apply (.zero negative) = .zero negative)
    (number : format.isNaN pattern = false) (zero : format.isZero pattern = true) (mode : Mode) :
    operation operator format mode [pattern] = .ok (.ofPattern pattern) := by
  have read := Number.read_of_isZero fits zero
  rw [operation_of_number ranged fits unary isApply number read, keeps]
  conv_rhs => rw [format.eq_zero_of_isZero fits zero]
  exact Operation.respond_zero mode _

/-- The square root. -/
theorem sqrt_isSqrt (narrow : format.fractionBits < format.emax) (mode : Mode) :
    ∃ response, operation .sqrt format mode [pattern] = .ok response ∧
      IsSqrt format mode pattern response ∧
      response.flags.underflow = false ∧ response.flags.overflow = false := by
  have called (number : format.isNaN pattern = false) {read : Number}
      (given : Number.read format pattern = read) :
      operation .sqrt format mode [pattern] = (Operation.finish format mode
        (read.sqrt.round (format.precision + 2) .towardZero)).map .ofRounded :=
    operation_of_number ranged fits rfl (fun _ => rfl) number given mode
  cases class_of_fits fits with
  | nan isNaN => exact ⟨_, operation_of_isNaN (by simp) isNaN mode, .nan isNaN, rfl, rfl⟩
  | zero _ _ number _ zero =>
    exact ⟨_, operation_of_isZero ranged fits rfl (fun _ => rfl) (fun _ => rfl) number zero mode,
      .zero zero, rfl, rfl⟩
  | infinite _ _ number infinite =>
    have same := format.eq_infinity_of_isInfinite fits infinite
    have given := called number (Number.read_of_isInfinite infinite)
    cases sign : format.isNegative pattern with
    | false =>
      rw [sign] at same given
      refine ⟨_, given.trans ?_, .infinite same, rfl, rfl⟩
      exact Operation.respond_infinity mode false
    | true =>
      rw [sign] at given
      refine ⟨_, given.trans ?_,
        .invalid number (format.isZero_eq_false_of_isInfinite infinite) sign, rfl, rfl⟩
      exact Operation.respond_nan mode invalid
  | finite negative ordinal positive inside same number _ nonzero =>
    have value := format.realOf_signBit_add negative inside
    have given := called number (same ▸ Number.read_signBit_add negative inside)
    rw [← same] at value
    rw [if_neg positive.ne'] at given
    cases negative with
    | false =>
      obtain ⟨rounded, finished, rounds, quiet⟩ :=
        Operation.finish_root_of_value mode false le_rfl ranged narrow positive inside
      refine ⟨_, given.trans (congrArg (Except.map Response.ofRounded) finished), .root ?_ ?_ ?_,
        quiet⟩
      · exact same ▸ format.isFinite_signBit_add false inside
      · exact value ▸ format.magnitudeAt_pos positive
      · exact value ▸ rounds
    | true =>
      refine ⟨_, given.trans ?_, .invalid number nonzero ?_, rfl, rfl⟩
      · exact Operation.respond_nan mode invalid
      · rw [same]
        exact format.isNegative_signBit_add true (inside.trans format.infinityOrdinal_lt)

/-- The cube root. -/
theorem cbrt_isCbrt (narrow : format.fractionBits < format.emax) (mode : Mode) :
    ∃ response, operation .cbrt format mode [pattern] = .ok response ∧
      IsCbrt format mode pattern response ∧
      response.flags.underflow = false ∧ response.flags.overflow = false := by
  have called (number : format.isNaN pattern = false) {read : Number}
      (given : Number.read format pattern = read) :
      operation .cbrt format mode [pattern] = (Operation.finish format mode
        (read.cbrt.round (format.precision + 2) .towardZero)).map .ofRounded :=
    operation_of_number ranged fits rfl (fun _ => rfl) number given mode
  cases class_of_fits fits with
  | nan isNaN => exact ⟨_, operation_of_isNaN (by simp) isNaN mode, .nan isNaN, rfl, rfl⟩
  | zero _ _ number _ zero =>
    exact ⟨_, operation_of_isZero ranged fits rfl (fun _ => rfl) (fun _ => rfl) number zero mode,
      .kept (Or.inl zero), rfl, rfl⟩
  | infinite _ _ number infinite =>
    refine ⟨.ofPattern pattern, ?_, .kept (Or.inr infinite), rfl, rfl⟩
    rw [called number (Number.read_of_isInfinite infinite)]
    conv_rhs => rw [format.eq_infinity_of_isInfinite fits infinite]
    exact Operation.respond_infinity mode _
  | finite negative ordinal positive inside same number _ nonzero =>
    have value := format.realOf_signBit_add negative inside
    have given := called number (same ▸ Number.read_signBit_add negative inside)
    rw [← same] at value
    rw [if_neg positive.ne'] at given
    obtain ⟨rounded, finished, rounds, quiet⟩ :=
      Operation.finish_root_of_value mode negative (show 2 ≤ 3 by decide) ranged narrow positive
        inside
    refine ⟨_, given.trans (congrArg (Except.map Response.ofRounded) finished), .root ?_ ?_ ?_,
      quiet⟩
    · exact same ▸ format.isFinite_signBit_add negative inside
    · rw [Ne, format.realOf_eq_zero_iff, nonzero]
      exact Bool.false_ne_true
    · exact value ▸ rounds

end

/-! ## The root of a sum of squares -/

/-- The sum of the squares of two values is a multiple of the square of the lowest place, and is
below the sum of two squares from the end of the range. -/
theorem square_sum_bounds {first second : ℕ} (finite : format.isFinite first = true)
    (finite' : format.isFinite second = true)
    (positive : 0 < format.realOf first ^ 2 + format.realOf second ^ 2) :
    2 ^ (format.lowestPlace + format.lowestPlace) ≤
        format.realOf first ^ 2 + format.realOf second ^ 2 ∧
      format.realOf first ^ 2 + format.realOf second ^ 2 < 2 ^ (2 * format.emax + 3) := by
  obtain ⟨units, left⟩ := format.realOf_eq_units first
  obtain ⟨units', right⟩ := format.realOf_eq_units second
  have multiple : format.realOf first ^ 2 + format.realOf second ^ 2 =
      (units ^ 2 + units' ^ 2 : ℤ) * 2 ^ (format.lowestPlace + format.lowestPlace) := by
    rw [left, right, zpow_add₀ two_ne_zero]
    push_cast
    ring
  constructor
  · have least := Format.two_pow_le_abs_of_multiple multiple positive.ne'
    rwa [abs_of_pos positive] at least
  · have square {pattern : ℕ} (finite : format.isFinite pattern = true) :
        format.realOf pattern ^ 2 < (2 ^ (format.emax + 1)) ^ 2 := by
      rw [← sq_abs]
      exact pow_lt_pow_left₀ (format.abs_realOf_lt finite) (abs_nonneg _) two_ne_zero
    calc format.realOf first ^ 2 + format.realOf second ^ 2
        < (2 ^ (format.emax + 1)) ^ 2 + (2 ^ (format.emax + 1)) ^ 2 :=
          add_lt_add (square finite) (square finite')
      _ = 2 ^ (2 * format.emax + 3) := by
          rw [← two_mul, ← zpow_natCast, ← zpow_mul, ← zpow_one_add₀ two_ne_zero]
          congr 1
          push_cast
          ring

/-- The root of a sum of squares. -/
theorem hypot_isHypot (ranged : format.emax + format.fractionBits < exponentLimit)
    {first second : ℕ} (fits : ∀ pattern ∈ [first, second], pattern < 2 ^ format.totalBits)
    (nonpos : format.lowestPlace ≤ 0)
    (lowest : -exponentLimit ≤ format.lowestPlace + format.lowestPlace)
    (highest : 2 * format.emax + 3 ≤ exponentLimit) (mode : Mode) :
    ∃ response, hypot format mode first second = .ok response ∧
      IsHypot format mode first second response := by
  unfold hypot
  by_cases infinite : format.isInfinite first = true ∨ format.isInfinite second = true
  · rw [if_pos infinite]
    exact ⟨_, rfl, .infinite infinite⟩
  rw [if_neg infinite]
  by_cases nan : format.isNaN first = true ∨ format.isNaN second = true
  · refine ⟨_, ?_, .nan infinite nan⟩
    rcases nan with isNaN | isNaN
    · exact operation_of_isNaN (by simp) isNaN mode
    · exact operation_of_isNaN (by simp) isNaN mode
  rw [not_or, Bool.not_eq_true, Bool.not_eq_true] at nan
  have bounded := infinite
  rw [not_or, Bool.not_eq_true, Bool.not_eq_true] at bounded
  have finite := format.isFinite_of_number nan.1 bounded.1
  have finite' := format.isFinite_of_number nan.2 bounded.2
  have gives := Number.gives_realOf (fits first (by simp)) finite
  have gives' := Number.gives_realOf (fits second (by simp)) finite'
  have called : operation .hypot format mode [first, second] = (Operation.finish format mode
      (((Number.read format first).hypot (Number.read format second)).round
        (format.precision + 2) .towardZero)).map .ofRounded :=
    operation_of_fits ranged fits rfl (by simpa using nan) mode
  by_cases zero : format.isZero first = true ∧ format.isZero second = true
  · refine ⟨_, called.trans ?_, .zero zero⟩
    rw [Number.read_of_isZero (fits first (by simp)) zero.1,
      Number.read_of_isZero (fits second (by simp)) zero.2]
    exact Operation.respond_zero mode false
  · have positive : 0 < format.realOf first ^ 2 + format.realOf second ^ 2 := by
      refine lt_of_le_of_ne (by positivity) fun none => zero ?_
      rw [eq_comm, add_eq_zero_iff_of_nonneg (sq_nonneg _) (sq_nonneg _), sq_eq_zero_iff,
        sq_eq_zero_iff] at none
      exact ⟨(format.realOf_eq_zero_iff _).mp none.1, (format.realOf_eq_zero_iff _).mp none.2⟩
    obtain ⟨least, greatest⟩ := square_sum_bounds finite finite' positive
    obtain ⟨root, above, power⟩ := exists_root two_pos positive
    have range := format.one_le_emax
    obtain ⟨low, high⟩ := log_root_bounds two_pos above power (by omega) (by omega) least greatest
    have finished : Operation.finish format mode
        (((Number.read format first).hypot (Number.read format second)).round
          (format.precision + 2) .towardZero) = .ok (format.roundReal mode false root) :=
      Number.finish_hypot mode gives gives' above power (lowest.trans low) (high.trans_le highest)
    exact ⟨_, called.trans (congrArg (Except.map Response.ofRounded) finished),
      .root ⟨finite, finite'⟩ zero (format.roundsRoot_roundReal mode false two_pos above power)⟩

/-! ## Calls -/

/-- The significands of machine types are shorter than their ranges of exponents. -/
theorem fractionBits_lt_emax (carrier : Carrier) :
    carrier.format.fractionBits < carrier.format.emax := by
  cases carrier <;> decide

/-- **Roots round once.** The square root, the cube root and the root of a sum of squares are the
correct roundings of the real roots in every mode, with their exceptions. The first two are in the
range of normal numbers. -/
theorem roots_correct {carrier : Carrier} (stored : format.carrier? = some carrier)
    {first second : ℕ}
    (fits : ∀ pattern ∈ [first, second], pattern < 2 ^ format.totalBits) (mode : Mode) :
    (∃ response, LibraryKind.reference.call .sqrt format mode [.float first] = .ok response ∧
      IsSqrt format mode first response ∧
      response.flags.underflow = false ∧ response.flags.overflow = false) ∧
    (∃ response, LibraryKind.reference.call .cbrt format mode [.float first] = .ok response ∧
      IsCbrt format mode first response ∧
      response.flags.underflow = false ∧ response.flags.overflow = false) ∧
    ∃ response, LibraryKind.reference.call .hypot format mode [.float first, .float second] =
        .ok response ∧
      IsHypot format mode first second response := by
  obtain rfl := Format.format_of_carrier? stored
  refine ⟨?_, ?_, ?_⟩
  · exact sqrt_isSqrt carrier.ranged (fits first (by simp)) (fractionBits_lt_emax carrier) mode
  · exact cbrt_isCbrt carrier.ranged (fits first (by simp)) (fractionBits_lt_emax carrier) mode
  · exact hypot_isHypot carrier.ranged fits carrier.lowestPlace_nonpos carrier.limit_le_lowestPlace
      carrier.product_le_limit mode

/-- Four has an exact square root and an inexact cube root. The root of its square and that of the
largest finite value is above that value, and rounded up it overflows. -/
theorem roots_correct_half :
    Format.half.carrier? = some .half ∧
      (∀ pattern ∈ [0x4400, 0x7bff], pattern < 2 ^ Format.half.totalBits) ∧
      LibraryKind.reference.call .sqrt .half .up [.float 0x4400] = .ok ⟨[.float 0x4000], .none⟩ ∧
      IsSqrt .half .up 0x4400 ⟨[.float 0x4000], .none⟩ ∧
      LibraryKind.reference.call .cbrt .half .up [.float 0x4400] =
        .ok ⟨[.float 0x3e5a], { inexact := true }⟩ ∧
      IsCbrt .half .up 0x4400 ⟨[.float 0x3e5a], { inexact := true }⟩ ∧
      LibraryKind.reference.call .hypot .half .up [.float 0x4400, .float 0x7bff] =
        .ok ⟨[.float 0x7c00], { overflow := true, inexact := true }⟩ ∧
      IsHypot .half .up 0x4400 0x7bff
        ⟨[.float 0x7c00], { overflow := true, inexact := true }⟩ := by
  have stored : Format.half.carrier? = some .half := by decide
  have fits : ∀ pattern ∈ [0x4400, 0x7bff], pattern < 2 ^ Format.half.totalBits := by decide
  -- The steps towards an integer root are a recursion that only unfolds on demand.
  have square : LibraryKind.reference.call .sqrt .half .up [.float 0x4400] =
      .ok ⟨[.float 0x4000], .none⟩ := by with_unfolding_all rfl
  have cube : LibraryKind.reference.call .cbrt .half .up [.float 0x4400] =
      .ok ⟨[.float 0x3e5a], { inexact := true }⟩ := by with_unfolding_all rfl
  have sum : LibraryKind.reference.call .hypot .half .up [.float 0x4400, .float 0x7bff] =
      .ok ⟨[.float 0x7c00], { overflow := true, inexact := true }⟩ := by with_unfolding_all rfl
  obtain ⟨⟨response, called, isSqrt, -⟩, ⟨response', called', isCbrt, -⟩, response'', called'',
    isHypot⟩ := roots_correct stored fits .up
  rw [square] at called
  rw [cube] at called'
  rw [sum] at called''
  obtain rfl := Except.ok.inj called
  obtain rfl := Except.ok.inj called'
  obtain rfl := Except.ok.inj called''
  exact ⟨stored, fits, square, isSqrt, cube, isCbrt, sum, isHypot⟩

end Reference

end LibmAudit
