/-
**Sums and products that round once.**

The product of two values plus a third one, and the positive difference, are exact in multiprecision
arithmetic, so that they are rounded once. The sign of an exact zero is that of the mode, unless it
is a sum of zeros with one sign.

* `Number.Gives.product`, `add_of_eq_zero`: exact products, and zero sums with their signs.
* `Reference.IsFma`, `IsFdim`: what the two routines have to give, by the classes of their operands.
* `Reference.fma_of_fits`: an exact zero is evaluated once more, in the mode.
* `Reference.sums_round_once`: the two routines.
-/

import LibmAudit.Proofs.Reference.Modes
import LibmAudit.Proofs.Reference.Operations

namespace LibmAudit

attribute [local instance (high)] instPowNat

variable {format : Format} {mode : Mode}

/-! ## Products and sums of numbers -/

namespace Number

variable {first second : Number} {y z : ℝ}

/-- The product of two numbers is exact, and it has the product of their signs. -/
theorem Gives.product (gives : first.Gives y) (gives' : second.Gives z) :
    (first.product second).Gives (y * z) ∧
      (first.product second).isNegative = (first.isNegative != second.isNegative) := by
  rcases gives with ⟨rfl, negative, rfl⟩ | ⟨value, rfl, nonzero, rfl⟩ <;>
    rcases gives' with ⟨rfl, negative', rfl⟩ | ⟨value', rfl, nonzero', rfl⟩
  · exact ⟨Or.inl ⟨zero_mul _, _, rfl⟩, rfl⟩
  · exact ⟨Or.inl ⟨zero_mul _, _, rfl⟩, rfl⟩
  · exact ⟨Or.inl ⟨mul_zero _, _, rfl⟩, rfl⟩
  · exact ⟨Or.inr ⟨_, rfl, Nat.mul_ne_zero nonzero nonzero', value.mul_toReal value'⟩, rfl⟩

/-- A zero sum has the common sign of its summands, which are zeros then, or that of the mode. -/
theorem Gives.add_of_eq_zero (gives : first.Gives y) (gives' : second.Gives z)
    (zero : y + z = 0) :
    first.add second =
      if first.isNegative = second.isNegative then .zero second.isNegative else .cancelled := by
  rcases gives with ⟨rfl, negative, rfl⟩ | ⟨value, rfl, nonzero, rfl⟩ <;>
    rcases gives' with ⟨rfl, negative', rfl⟩ | ⟨value', rfl, nonzero', rfl⟩
  · show (if negative = negative' then _ else _) = if negative = negative' then _ else _
    by_cases same : negative = negative'
    · rw [if_pos same, if_pos same, same]
      rfl
    · rw [if_neg same, if_neg same]
  · exact absurd (zero_add value'.toReal ▸ zero) (value'.toReal_ne_zero nonzero')
  · exact absurd (add_zero value.toReal ▸ zero) (value.toReal_ne_zero nonzero)
  · -- Numbers that are not zero and cancel have different signs.
    have opposite : ¬ value.negative = value'.negative := by
      intro same
      have positive := Dyadic.magnitude_pos nonzero
      have positive' := Dyadic.magnitude_pos nonzero'
      unfold Dyadic.toReal at zero
      rw [same, signed_add, ← abs_eq_zero, abs_signed, abs_eq_zero] at zero
      linarith
    rcases Dyadic.add_eq value value' with ⟨-, cancelled⟩ | ⟨other, -⟩
    · exact cancelled.trans (if_neg opposite).symm
    · exact absurd zero other

variable {pattern : ℕ}

theorem isNegative_read (number : format.isNaN pattern = false) :
    (read format pattern).isNegative = format.isNegative pattern := by
  unfold read
  dsimp only
  rw [if_neg (Bool.eq_false_iff.mp number)]
  split
  · rfl
  · split <;> rfl

/-- A value that is not zero is read as an infinity or as a number with its sign. -/
theorem read_of_nonzero (fits : pattern < 2 ^ format.totalBits)
    (number : format.isNaN pattern = false) (nonzero : format.isZero pattern = false) :
    read format pattern = .infinity (format.isNegative pattern) ∨
      ∃ value : Dyadic, read format pattern = .finite value ∧
        value.negative = format.isNegative pattern := by
  by_cases infinite : format.isInfinite pattern = true
  · exact Or.inl (read_of_isInfinite infinite)
  · have finite := format.isFinite_of_number number (Bool.eq_false_iff.mpr infinite)
    have sign := isNegative_read number
    rcases gives_realOf fits finite with ⟨zero, -⟩ | ⟨value, given, -⟩
    · rw [format.realOf_eq_zero_iff, nonzero] at zero
      exact absurd zero Bool.false_ne_true
    · rw [given] at sign
      exact Or.inr ⟨value, given, sign⟩

end Number

/-! ## Infinite operands -/

namespace Format

variable {first second third : ℕ}

theorem valueOf_of_nonzero {pattern : ℕ} (fits : pattern < 2 ^ format.totalBits)
    (number : format.isNaN pattern = false) (nonzero : format.isZero pattern = false) :
    ∃ magnitude : EReal, 0 < magnitude ∧
      format.valueOf pattern = signed (format.isNegative pattern) magnitude := by
  rw [isNaN_eq_false_iff] at number
  have some : 0 < format.magnitudeField pattern := by
    rw [Nat.pos_iff_ne_zero, Ne, ← isZero_iff, nonzero]
    exact Bool.false_ne_true
  have value := format.valueOf_signBit_add (format.isNegative pattern) number
  rw [format.signBit_add_magnitudeField fits] at value
  refine ⟨_, ?_, value⟩
  rw [← format.extendedAt_zero]
  exact format.extendedAt_strictMonoOn (Nat.zero_le format.infinityOrdinal) number some

theorem valueOf_of_isInfinite {pattern : ℤ} (infinite : format.isInfinite pattern = true) :
    format.valueOf pattern = signed (format.isNegative pattern) ⊤ := if_pos infinite

theorem signed_top_mul (negative negative' : Bool) {magnitude : EReal} (positive : 0 < magnitude) :
    signed negative (⊤ : EReal) * signed negative' magnitude = signed (negative != negative') ⊤ := by
  have above := EReal.top_mul_of_pos positive
  have below := EReal.bot_mul_of_pos positive
  cases negative <;> cases negative' <;> simp [signed, above, below]

/-- A zero factor and an infinite one. -/
def IsInvalidProduct (format : Format) (first second : ℕ) : Prop :=
  (format.isInfinite first = true ∧ format.isZero second = true) ∨
    (format.isZero first = true ∧ format.isInfinite second = true)

/-- An infinite factor and an infinite summand whose sign is not that of the product. -/
def IsInvalidSum (format : Format) (first second third : ℕ) : Prop :=
  (format.isInfinite first = true ∨ format.isInfinite second = true) ∧
    format.isInfinite third = true ∧
    (format.isNegative first != format.isNegative second) ≠ format.isNegative third

/-- A product with an infinite factor is an infinity, unless the other factor is zero. -/
theorem product_of_isInfinite (fits : first < 2 ^ format.totalBits)
    (fits' : second < 2 ^ format.totalBits) (number : format.isNaN first = false)
    (number' : format.isNaN second = false)
    (infinite : format.isInfinite first = true ∨ format.isInfinite second = true)
    (valid : ¬ format.IsInvalidProduct first second) :
    (Number.read format first).product (Number.read format second) =
        .infinity (format.isNegative first != format.isNegative second) ∧
      format.valueOf first * format.valueOf second =
        signed (format.isNegative first != format.isNegative second) ⊤ := by
  rcases infinite with infinite | infinite
  · have nonzero : format.isZero second = false :=
      Bool.eq_false_iff.mpr fun zero => valid (Or.inl ⟨infinite, zero⟩)
    obtain ⟨magnitude, positive, value⟩ := valueOf_of_nonzero fits' number' nonzero
    constructor
    · rw [Number.read_of_isInfinite infinite]
      rcases Number.read_of_nonzero fits' number' nonzero with same | ⟨other, same, sign⟩
      · rw [same]
        rfl
      · rw [same, ← sign]
        rfl
    · rw [valueOf_of_isInfinite infinite, value, signed_top_mul _ _ positive]
  · have nonzero : format.isZero first = false :=
      Bool.eq_false_iff.mpr fun zero => valid (Or.inr ⟨zero, infinite⟩)
    obtain ⟨magnitude, positive, value⟩ := valueOf_of_nonzero fits number nonzero
    constructor
    · rw [Number.read_of_isInfinite infinite]
      rcases Number.read_of_nonzero fits number nonzero with same | ⟨other, same, sign⟩
      · rw [same]
        rfl
      · rw [same, ← sign]
        rfl
    · rw [valueOf_of_isInfinite infinite, value, mul_comm, signed_top_mul _ _ positive,
        bne_comm]

theorem product_of_invalid (fits : first < 2 ^ format.totalBits)
    (fits' : second < 2 ^ format.totalBits) (invalid : format.IsInvalidProduct first second) :
    (Number.read format first).product (Number.read format second) = .nan := by
  rcases invalid with ⟨infinite, zero⟩ | ⟨zero, infinite⟩
  · rw [Number.read_of_isInfinite infinite, Number.read_of_isZero fits' zero]
    rfl
  · rw [Number.read_of_isInfinite infinite, Number.read_of_isZero fits zero]
    rfl

/-- A real number does not change an infinity, and equal infinities do not cancel. -/
theorem signed_top_add (negative : Bool) {value : EReal}
    (value_eq : value = signed negative ⊤ ∨ ∃ y : ℝ, value = y) :
    signed negative (⊤ : EReal) + value = signed negative ⊤ := by
  rcases value_eq with rfl | ⟨y, rfl⟩
  · cases negative <;> rfl
  · cases negative
    · exact EReal.top_add_coe y
    · exact EReal.bot_add _

/-- An infinite operand makes a product plus a third value an infinity, or an invalid one. -/
theorem fma_outcome_of_isInfinite
    (fits : ∀ pattern ∈ [first, second, third], pattern < 2 ^ format.totalBits)
    (numbers : ∀ pattern ∈ [first, second, third], format.isNaN (pattern : ℕ) = false)
    (among : ∃ pattern ∈ [first, second, third], format.isInfinite (pattern : ℕ) = true) :
    ((format.IsInvalidProduct first second ∨ format.IsInvalidSum first second third) ∧
      (Number.read format first).fma (Number.read format second) (Number.read format third) =
        .nan) ∨
    (¬ format.IsInvalidProduct first second ∧ ¬ format.IsInvalidSum first second third ∧
      ∃ negative, (Number.read format first).fma (Number.read format second)
          (Number.read format third) = .infinity negative false ∧
        format.valueOf first * format.valueOf second + format.valueOf third =
          signed negative ⊤) := by
  simp only [List.mem_cons, List.not_mem_nil, or_false, forall_eq_or_imp, forall_eq,
    exists_eq_or_imp, exists_eq_left] at fits numbers among
  obtain ⟨fits₁, fits₂, fits₃⟩ := fits
  obtain ⟨number₁, number₂, number₃⟩ := numbers
  unfold Number.fma
  by_cases invalid : format.IsInvalidProduct first second
  · rw [product_of_invalid fits₁ fits₂ invalid]
    exact Or.inl ⟨Or.inl invalid, rfl⟩
  by_cases factor : format.isInfinite first = true ∨ format.isInfinite second = true
  · obtain ⟨product, value⟩ :=
      product_of_isInfinite fits₁ fits₂ number₁ number₂ factor invalid
    rw [product, value]
    by_cases infinite : format.isInfinite third = true
    · rw [Number.read_of_isInfinite infinite, valueOf_of_isInfinite infinite]
      by_cases same : (format.isNegative first != format.isNegative second) =
          format.isNegative third
      · refine Or.inr ⟨invalid, fun sum => sum.2.2 same, _, if_pos same, ?_⟩
        rw [same]
        exact signed_top_add _ (Or.inl rfl)
      · exact Or.inl ⟨Or.inr ⟨factor, infinite, same⟩, if_neg same⟩
    · have finite := format.isFinite_of_number number₃ (Bool.eq_false_iff.mpr infinite)
      refine Or.inr ⟨invalid, fun sum => infinite sum.2.1, _, ?_,
        signed_top_add _ (Or.inr ⟨_, format.valueOf_of_finite finite⟩)⟩
      rcases Number.gives_realOf fits₃ finite with ⟨-, _, number⟩ | ⟨_, number, -⟩
      · rw [number]
        rfl
      · rw [number]
        rfl
  · -- The product is a real number, and the third operand alone is infinite.
    have infinite : format.isInfinite third = true := by tauto
    rw [not_or, Bool.not_eq_true, Bool.not_eq_true] at factor
    have finite₁ := format.isFinite_of_number number₁ factor.1
    have finite₂ := format.isFinite_of_number number₂ factor.2
    obtain ⟨product, -⟩ :=
      (Number.gives_realOf fits₁ finite₁).product (Number.gives_realOf fits₂ finite₂)
    refine Or.inr ⟨invalid, fun sum => ?_, format.isNegative third, ?_, ?_⟩
    · rcases sum.1 with unbounded | unbounded
      · exact Bool.false_ne_true (factor.1.symm.trans unbounded)
      · exact Bool.false_ne_true (factor.2.symm.trans unbounded)
    · rw [Number.read_of_isInfinite infinite]
      rcases product with ⟨-, _, number⟩ | ⟨_, number, -⟩
      · rw [number]
        rfl
      · rw [number]
        rfl
    · rw [valueOf_of_isInfinite infinite, add_comm, format.valueOf_of_finite finite₁,
        format.valueOf_of_finite finite₂, ← EReal.coe_mul]
      exact signed_top_add _ (Or.inr ⟨_, rfl⟩)

end Format

/-! ## What sums have to be -/

namespace Reference

/-- The product of two values plus a third one in a mode, by the classes of the three. -/
inductive IsFma (format : Format) (mode : Mode) (first second third : ℕ) : Response → Prop
  | nan (among : ∃ pattern ∈ [first, second, third], format.isNaN (pattern : ℕ) = true) :
      IsFma format mode first second third (Reference.nan format)
  | invalid (numbers : ∀ pattern ∈ [first, second, third], format.isNaN (pattern : ℕ) = false)
      (given : format.IsInvalidProduct first second ∨ format.IsInvalidSum first second third) :
      IsFma format mode first second third (Reference.nan format invalid)
  | infinite (numbers : ∀ pattern ∈ [first, second, third], format.isNaN (pattern : ℕ) = false)
      (among : ∃ pattern ∈ [first, second, third], format.isInfinite (pattern : ℕ) = true)
      (product : ¬ format.IsInvalidProduct first second)
      (sum : ¬ format.IsInvalidSum first second third) {negative : Bool}
      (value : format.valueOf first * format.valueOf second + format.valueOf third =
        signed negative ⊤) :
      IsFma format mode first second third (.ofPattern (format.infinity negative))
  | number (finite : ∀ pattern ∈ [first, second, third], format.isFinite (pattern : ℕ) = true)
      (nonzero : format.realOf first * format.realOf second + format.realOf third ≠ 0)
      {response : Response} (rounds : response.Rounds format mode
        (format.realOf first * format.realOf second + format.realOf third)) :
      IsFma format mode first second third response
  | zero (finite : ∀ pattern ∈ [first, second, third], format.isFinite (pattern : ℕ) = true)
      (zero : format.realOf first * format.realOf second + format.realOf third = 0) :
      IsFma format mode first second third (.ofPattern (format.zero
        (if (format.isNegative first != format.isNegative second) = format.isNegative third then
          format.isNegative third else decide (mode = .down))))

/-- The positive difference of two values in a mode, by the classes of the two. -/
inductive IsFdim (format : Format) (mode : Mode) (first second : ℕ) : Response → Prop
  | nan (among : ∃ pattern ∈ [first, second], format.isNaN (pattern : ℕ) = true) :
      IsFdim format mode first second (Reference.nan format)
  | infinite (numbers : ∀ pattern ∈ [first, second], format.isNaN (pattern : ℕ) = false)
      (among : ∃ pattern ∈ [first, second], format.isInfinite (pattern : ℕ) = true)
      (above : format.valueOf second < format.valueOf first) :
      IsFdim format mode first second (.ofPattern (format.infinity false))
  | number (finite : ∀ pattern ∈ [first, second], format.isFinite (pattern : ℕ) = true)
      (above : format.realOf second < format.realOf first) {response : Response}
      (rounds : response.Rounds format mode (format.realOf first - format.realOf second)) :
      IsFdim format mode first second response
  | zero (numbers : ∀ pattern ∈ [first, second], format.isNaN (pattern : ℕ) = false)
      (le : format.valueOf first ≤ format.valueOf second) :
      IsFdim format mode first second (.ofPattern (format.zero false))

/-! ## Fused products and sums -/

variable {first second third : ℕ}

/-- A product plus a third value is its exact outcome, cut and rounded. A zero that is left is
evaluated once more, in the mode. -/
theorem fma_of_fits {outcome : Outcome}
    (ranged : format.emax + format.fractionBits < exponentLimit)
    (fits : ∀ pattern ∈ [first, second, third], pattern < 2 ^ format.totalBits)
    (numbers : ∀ pattern ∈ [first, second, third], format.isNaN (pattern : ℕ) = false)
    (same : (Number.read format first).fma (Number.read format second) (Number.read format third) =
      outcome) (mode : Mode) :
    fma format mode [first, second, third] = (Operation.finish format mode
      (match (outcome.round (format.precision + 2) .towardZero).number with
        | .zero _ => { outcome.round (format.precision + 2) mode with
            flags := (outcome.round (format.precision + 2) .towardZero).flags }
        | _ => outcome.round (format.precision + 2) .towardZero)).map .ofRounded := by
  have any : ¬ anyNaN format [first, second, third] = true := by
    rw [anyNaN, List.any_eq_true]
    rintro ⟨pattern, among, nan⟩
    exact Bool.false_ne_true ((numbers pattern among).symm.trans nan)
  have evaluated (mode : Mode) : Operation.fma.evaluateOn format mode [first, second, third] =
      .ok (outcome.round (format.precision + 2) mode) := by
    rw [← same]
    exact Operation.evaluateOn_of_fits ranged fits rfl mode
  rw [fma, operationPattern, if_neg any, Operation.evaluateInto]
  simp only [evaluated, bind, Except.bind]
  cases (outcome.round (format.precision + 2) .towardZero).number <;> rfl

/-- The leading digit of a product plus a third value is in the exponent range. -/
theorem log_fma_bounds (nonpos : format.lowestPlace ≤ 0)
    (lowest : -exponentLimit ≤ format.lowestPlace + format.lowestPlace)
    (highest : 2 * format.emax + 3 ≤ exponentLimit)
    (finite : ∀ pattern ∈ [first, second, third], format.isFinite (pattern : ℕ) = true)
    (nonzero : format.realOf first * format.realOf second + format.realOf third ≠ 0) :
    -exponentLimit ≤
        Int.log 2 |format.realOf first * format.realOf second + format.realOf third| ∧
      Int.log 2 |format.realOf first * format.realOf second + format.realOf third| <
        exponentLimit := by
  obtain ⟨units, left⟩ := format.realOf_eq_units first
  obtain ⟨units', right⟩ := format.realOf_eq_units second
  obtain ⟨units'', last⟩ := format.realOf_eq_units third
  have range := format.one_le_emax
  have multiple : format.realOf first * format.realOf second + format.realOf third =
      (units * units' + units'' * 2 ^ (-format.lowestPlace).toNat : ℤ) *
        2 ^ (format.lowestPlace + format.lowestPlace) := by
    have split : (2 : ℝ) ^ format.lowestPlace = 2 ^ (-format.lowestPlace).toNat *
        2 ^ (format.lowestPlace + format.lowestPlace) := by
      rw [← zpow_natCast, ← zpow_add₀ two_ne_zero]
      congr 1
      omega
    rw [left, right, last]
    nth_rewrite 3 [split]
    rw [zpow_add₀ two_ne_zero]
    push_cast
    ring
  have small (pattern : ℕ) (among : pattern ∈ [first, second, third]) :
      |format.realOf pattern| < 2 ^ (format.emax + 1) := format.abs_realOf_lt (finite _ among)
  have below : |format.realOf first * format.realOf second + format.realOf third| <
      2 ^ (2 * format.emax + 3) :=
    calc |format.realOf first * format.realOf second + format.realOf third|
        ≤ |format.realOf first| * |format.realOf second| + |format.realOf third| := by
          rw [← abs_mul]
          exact abs_add_le _ _
      _ < 2 ^ (format.emax + 1) * 2 ^ (format.emax + 1) + 2 ^ (format.emax + 1) :=
          add_lt_add_of_le_of_lt (mul_le_mul (small _ (by simp)).le (small _ (by simp)).le
            (abs_nonneg _) (by positivity)) (small _ (by simp))
      _ ≤ 2 ^ (2 * format.emax + 2) + 2 ^ (2 * format.emax + 2) := by
          rw [← zpow_add₀ two_ne_zero]
          exact add_le_add (zpow_le_zpow_right₀ one_le_two (by omega))
            (zpow_le_zpow_right₀ one_le_two (by omega))
      _ = 2 ^ (2 * format.emax + 3) := by
          rw [← two_mul, ← zpow_one_add₀ two_ne_zero]
          congr 1
          ring
  have bounds := Format.log_bounds_of_multiple multiple nonzero below
  omega

section

variable (ranged : format.emax + format.fractionBits < exponentLimit)
  (fits : ∀ pattern ∈ [first, second, third], pattern < 2 ^ format.totalBits)

include ranged fits

/-- Finite operands. -/
theorem fma_of_isFinite (nonpos : format.lowestPlace ≤ 0)
    (lowest : -exponentLimit ≤ format.lowestPlace + format.lowestPlace)
    (highest : 2 * format.emax + 3 ≤ exponentLimit)
    (finite : ∀ pattern ∈ [first, second, third], format.isFinite (pattern : ℕ) = true)
    (mode : Mode) :
    ∃ response, fma format mode [first, second, third] = .ok response ∧
      IsFma format mode first second third response := by
  have numbers (pattern : ℕ) (among : pattern ∈ [first, second, third]) :
      format.isNaN (pattern : ℕ) = false := format.isNaN_of_finite (finite _ among)
  have called := fma_of_fits ranged fits numbers rfl mode
  have stands (pattern : ℕ) (among : pattern ∈ [first, second, third]) :=
    Number.gives_realOf (fits _ among) (finite _ among)
  have sign (pattern : ℕ) (among : pattern ∈ [first, second, third]) :=
    Number.isNegative_read (numbers _ among)
  obtain ⟨product, negative⟩ := (stands first (by simp)).product (stands second (by simp))
  rw [sign first (by simp), sign second (by simp)] at negative
  by_cases zero : format.realOf first * format.realOf second + format.realOf third = 0
  · -- The zero of the first evaluation is one in the mode as well.
    have outcome := product.add_of_eq_zero (stands third (by simp)) zero
    rw [negative, sign third (by simp)] at outcome
    refine ⟨_, called.trans ?_, .zero finite zero⟩
    rw [Number.fma, outcome]
    by_cases same : (format.isNegative first != format.isNegative second) = format.isNegative third
    · rw [if_pos same, if_pos same]
      exact Operation.respond_zero mode _
    · rw [if_neg same, if_neg same]
      exact Operation.respond_zero mode _
  · obtain ⟨above, below⟩ := log_fma_bounds nonpos lowest highest finite zero
    obtain ⟨-, value⟩ := (product.add (stands third (by simp))).resolve_right
      fun cancelled => zero cancelled.1
    obtain ⟨number, kept⟩ := value.round_finite format above below
    obtain ⟨rounded, finished, rounds⟩ := Operation.finish_rounds mode value above below
    rw [Number.fma, kept] at called
    dsimp only at called
    rw [finished] at called
    exact ⟨_, called, .number finite zero rounds⟩

/-- Infinite operands. -/
theorem fma_of_isInfinite
    (numbers : ∀ pattern ∈ [first, second, third], format.isNaN (pattern : ℕ) = false)
    (among : ∃ pattern ∈ [first, second, third], format.isInfinite (pattern : ℕ) = true)
    (mode : Mode) :
    ∃ response, fma format mode [first, second, third] = .ok response ∧
      IsFma format mode first second third response := by
  rcases Format.fma_outcome_of_isInfinite fits numbers among with
    ⟨given, outcome⟩ | ⟨product, sum, negative, outcome, value⟩
  · have called := fma_of_fits ranged fits numbers outcome mode
    refine ⟨_, called.trans ?_, .invalid numbers given⟩
    exact Operation.respond_nan mode invalid
  · have called := fma_of_fits ranged fits numbers outcome mode
    refine ⟨_, called.trans ?_, .infinite numbers among product sum value⟩
    exact Operation.respond_infinity mode negative

/-- The product of two values plus a third one. -/
theorem fma_isFma (nonpos : format.lowestPlace ≤ 0)
    (lowest : -exponentLimit ≤ format.lowestPlace + format.lowestPlace)
    (highest : 2 * format.emax + 3 ≤ exponentLimit) (mode : Mode) :
    ∃ response, fma format mode [first, second, third] = .ok response ∧
      IsFma format mode first second third response := by
  by_cases nan : ∃ pattern ∈ [first, second, third], format.isNaN (pattern : ℕ) = true
  · have any : anyNaN format [first, second, third] = true := List.any_eq_true.mpr nan
    refine ⟨_, ?_, .nan nan⟩
    rw [fma, operationPattern, if_pos any]
    rfl
  have numbers (pattern : ℕ) (among : pattern ∈ [first, second, third]) :
      format.isNaN (pattern : ℕ) = false :=
    Bool.eq_false_iff.mpr fun isNaN => nan ⟨pattern, among, isNaN⟩
  by_cases infinite : ∃ pattern ∈ [first, second, third], format.isInfinite (pattern : ℕ) = true
  · exact fma_of_isInfinite ranged fits numbers infinite mode
  · exact fma_of_isFinite ranged fits nonpos lowest highest (fun pattern among =>
      format.isFinite_of_number (numbers pattern among)
        (Bool.eq_false_iff.mpr fun isInfinite => infinite ⟨pattern, among, isInfinite⟩)) mode

end

/-! ## Positive differences -/

/-- A difference above zero with an infinite operand is an infinity. -/
theorem sub_of_isInfinite {first second : ℕ} (fits : first < 2 ^ format.totalBits)
    (fits' : second < 2 ^ format.totalBits)
    (numbers : ∀ pattern ∈ [first, second], format.isNaN (pattern : ℕ) = false)
    (among : ∃ pattern ∈ [first, second], format.isInfinite (pattern : ℕ) = true)
    (above : format.valueOf second < format.valueOf first) :
    (Number.read format first).sub (Number.read format second) = .infinity false false := by
  simp only [List.mem_cons, List.not_mem_nil, or_false, forall_eq_or_imp, forall_eq,
    exists_eq_or_imp, exists_eq_left] at numbers among
  obtain ⟨number, number'⟩ := numbers
  by_cases infinite : format.isInfinite first = true
  · -- Nothing is below the negative infinity, or above the positive one.
    rw [Format.valueOf_of_isInfinite infinite] at above
    have sign : format.isNegative first = false := by
      rw [Bool.eq_false_iff]
      intro negative
      rw [negative] at above
      exact not_lt_bot above
    rw [Number.read_of_isInfinite infinite, sign]
    rw [sign] at above
    by_cases infinite' : format.isInfinite second = true
    · have sign' : format.isNegative second = true := by
        rw [Format.valueOf_of_isInfinite infinite'] at above
        by_contra positive
        rw [Bool.eq_false_iff.mpr positive] at above
        exact lt_irrefl _ above
      rw [Number.read_of_isInfinite infinite', sign']
      rfl
    · have finite := format.isFinite_of_number number' (Bool.eq_false_iff.mpr infinite')
      rcases Number.gives_realOf fits' finite with ⟨-, _, same⟩ | ⟨_, same, -⟩
      · rw [same]
        rfl
      · rw [same]
        rfl
  · have infinite' : format.isInfinite second = true := among.resolve_left infinite
    have finite := format.isFinite_of_number number (Bool.eq_false_iff.mpr infinite)
    have sign' : format.isNegative second = true := by
      rw [Format.valueOf_of_isInfinite infinite'] at above
      by_contra positive
      rw [Bool.eq_false_iff.mpr positive] at above
      exact not_top_lt above
    rw [Number.read_of_isInfinite infinite', sign']
    rcases Number.gives_realOf fits finite with ⟨-, _, same⟩ | ⟨_, same, -⟩
    · rw [same]
      rfl
    · rw [same]
      rfl

/-- The positive difference. -/
theorem fdim_isFdim (ranged : format.emax + format.fractionBits < exponentLimit)
    {first second : ℕ} (fits : ∀ pattern ∈ [first, second], pattern < 2 ^ format.totalBits)
    (mode : Mode) :
    ∃ response, fdim format mode first second = .ok response ∧
      IsFdim format mode first second response := by
  unfold fdim
  by_cases nan : format.isNaN first = true ∨ format.isNaN second = true
  · rw [if_pos nan]
    exact ⟨_, rfl, .nan (by simpa using nan)⟩
  have numbers : ∀ pattern ∈ [first, second], format.isNaN (pattern : ℕ) = false := by
    simpa [not_or] using nan
  have order := format.valueOf_lt_iff (fits second (by simp)) (fits first (by simp))
    (numbers second (by simp)) (numbers first (by simp))
  rw [if_neg nan]
  by_cases above : format.valueOf second < format.valueOf first
  · rw [if_pos (order.mp above)]
    by_cases infinite : ∃ pattern ∈ [first, second], format.isInfinite (pattern : ℕ) = true
    · have outcome := sub_of_isInfinite (fits first (by simp)) (fits second (by simp)) numbers
        infinite above
      have called : operation .sub format mode [first, second] = (Operation.finish format mode
          (((Number.read format first).sub (Number.read format second)).round
            (format.precision + 2) .towardZero)).map .ofRounded :=
        operation_of_fits ranged fits rfl numbers mode
      refine ⟨_, called.trans ?_, .infinite numbers infinite above⟩
      rw [outcome]
      exact Operation.respond_infinity mode false
    · have finite (pattern : ℕ) (among : pattern ∈ [first, second]) :
          format.isFinite (pattern : ℕ) = true :=
        format.isFinite_of_number (numbers pattern among)
          (Bool.eq_false_iff.mpr fun isInfinite => infinite ⟨pattern, among, isInfinite⟩)
      have finite₁ := finite first (by simp)
      have finite₂ := finite second (by simp)
      rw [format.valueOf_of_finite finite₁, format.valueOf_of_finite finite₂,
        EReal.coe_lt_coe_iff] at above
      have nonzero : format.realOf first - format.realOf second ≠ 0 := (sub_pos.mpr above).ne'
      have value : (Operation.sub.apply ([first, second].map fun pattern : ℕ =>
          Number.read format pattern)).HasValue (format.realOf first - format.realOf second) :=
        (((Number.gives_realOf (fits first (by simp)) finite₁).add
          (Number.gives_realOf (fits second (by simp)) finite₂).neg).resolve_right
            fun cancelled => nonzero cancelled.1).2
      obtain ⟨lowest, highest⟩ := format.log_sub_bounds ranged finite₁ finite₂ nonzero
      obtain ⟨response, called, rounds⟩ :=
        operation_rounds ranged fits rfl numbers mode value lowest highest
      exact ⟨response, called, .number finite above rounds⟩
  · rw [if_neg (mt order.mpr above)]
    exact ⟨_, rfl, .zero numbers (not_lt.mp above)⟩

/-! ## Calls -/

/-- **Sums and products round once.** The product of two values plus a third one, and the positive
difference of two values, are the correct roundings of the exact numbers in every mode, with their
exceptions. -/
theorem sums_round_once {carrier : Carrier} (stored : format.carrier? = some carrier)
    {first second third : ℕ}
    (fits : ∀ pattern ∈ [first, second, third], pattern < 2 ^ format.totalBits) (mode : Mode) :
    (∃ response, LibraryKind.reference.call .fma format mode
        [.float first, .float second, .float third] = .ok response ∧
      IsFma format mode first second third response) ∧
    ∃ response, LibraryKind.reference.call .fdim format mode [.float first, .float second] =
        .ok response ∧
      IsFdim format mode first second response := by
  obtain rfl := Format.format_of_carrier? stored
  constructor
  · exact fma_isFma carrier.ranged fits carrier.lowestPlace_nonpos carrier.limit_le_lowestPlace
      carrier.product_le_limit mode
  · exact fdim_isFdim carrier.ranged (fun pattern among => fits pattern (by simp at among ⊢; tauto))
      mode

/-- The square of a little more than one, less all of its leading digits: the one that is left is
the least of the square. A value less itself has no sign of its own. -/
theorem sums_round_once_half :
    Format.half.carrier? = some .half ∧
      (∀ pattern ∈ [0x3c01, 0x3c01, 0xbc02], pattern < 2 ^ Format.half.totalBits) ∧
      LibraryKind.reference.call .fma .half .down [.float 0x3c01, .float 0x3c01, .float 0xbc02] =
        .ok ⟨[.float 0x0010], .none⟩ ∧
      IsFma .half .down 0x3c01 0x3c01 0xbc02 ⟨[.float 0x0010], .none⟩ ∧
      LibraryKind.reference.call .fdim .half .down [.float 0x3c01, .float 0x3c01] =
        .ok ⟨[.float 0], .none⟩ ∧
      IsFdim .half .down 0x3c01 0x3c01 ⟨[.float 0], .none⟩ := by
  have stored : Format.half.carrier? = some .half := by decide
  have fits : ∀ pattern ∈ [0x3c01, 0x3c01, 0xbc02], pattern < 2 ^ Format.half.totalBits := by
    decide
  have sum : LibraryKind.reference.call .fma .half .down
      [.float 0x3c01, .float 0x3c01, .float 0xbc02] = .ok ⟨[.float 0x0010], .none⟩ := by rfl
  have difference : LibraryKind.reference.call .fdim .half .down
      [.float 0x3c01, .float 0x3c01] = .ok ⟨[.float 0], .none⟩ := by rfl
  obtain ⟨⟨response, called, isFma⟩, response', called', isFdim⟩ :=
    sums_round_once stored fits .down
  rw [sum] at called
  rw [difference] at called'
  obtain rfl := Except.ok.inj called
  obtain rfl := Except.ok.inj called'
  exact ⟨stored, fits, sum, isFma, difference, isFdim⟩

end Reference

end LibmAudit
