/-
**Operands of the format are read exactly.**

The patterns of a format are multiprecision numbers if its exponents are in range, so that an
operation on them is its outcome in exact arithmetic, cut toward zero and rounded.

* `Number.read_cases`, `read_kinds`: what is read from a pattern, as digits and as a value.
* `Number.read_of_isInfinite`, `read_of_isZero`, `gives_realOf`: the same by the class of a pattern.
* `Operation.evaluateOn_of_fits`: the outcome of an operation on patterns.
* `Reference.operation_of_fits`, `operation_of_isNaN`: the response of the reference library.
-/

import LibmAudit.Proofs.Multiprecision.Modes
import LibmAudit.Proofs.Reference.Parts
import LibmAudit.Reference.Library

namespace LibmAudit

attribute [local instance (high)] instPowNat

variable {format : Format}

/-! ## Numbers from patterns -/

namespace Number

variable {pattern : ℕ}

theorem read_of_isInfinite (infinite : format.isInfinite pattern = true) :
    read format pattern = .infinity (format.isNegative pattern) := by
  have number : ¬ format.isNaN pattern = true := by
    rw [format.isNaN_iff, (format.isInfinite_iff pattern).mp infinite]
    exact lt_irrefl _
  rw [read, format.scaled?_of_not_finite (format.isFinite_eq_false_of_isInfinite infinite)]
  exact if_neg number

/-- A finite pattern stands for its value. -/
theorem gives_realOf (fits : pattern < 2 ^ format.totalBits)
    (finite : format.isFinite pattern = true) :
    (read format pattern).Gives (format.realOf pattern) := by
  obtain ⟨negative, ordinal, inside, -, rfl⟩ := Format.exists_signBit_add fits finite
  rw [format.realOf_signBit_add negative inside]
  exact gives_signBit_add negative inside

theorem read_of_isZero (fits : pattern < 2 ^ format.totalBits)
    (zero : format.isZero pattern = true) :
    read format pattern = .zero (format.isNegative pattern) := by
  have whole := format.signBit_add_magnitudeField fits
  rw [(format.isZero_iff pattern).mp zero] at whole
  conv_lhs => rw [← whole]
  rw [read_signBit_add _ format.infinityOrdinal_pos, if_pos rfl]

/-- What is read from a pattern is special or the value of the pattern. -/
theorem read_kinds (fits : pattern < 2 ^ format.totalBits) :
    read format pattern = .nan ∨ (∃ negative, read format pattern = .infinity negative) ∨
      (format.isFinite pattern = true ∧ (read format pattern).Gives (format.realOf pattern)) := by
  by_cases nan : format.isNaN pattern = true
  · exact Or.inl (if_pos nan)
  by_cases infinite : format.isInfinite pattern = true
  · exact Or.inr (Or.inl ⟨_, read_of_isInfinite infinite⟩)
  · have finite := format.isFinite_of_number (Bool.eq_false_iff.mpr nan)
      (Bool.eq_false_iff.mpr infinite)
    exact Or.inr (Or.inr ⟨finite, gives_realOf fits finite⟩)

/-- What is read from a pattern of the format. -/
theorem read_cases (fits : pattern < 2 ^ format.totalBits) :
    read format pattern = .nan ∨ (∃ negative, read format pattern = .infinity negative) ∨
      (∃ negative, read format pattern = .zero negative) ∨
      ∃ negative ordinal, 0 < ordinal ∧ ordinal < format.infinityOrdinal ∧
        pattern = format.signBit negative + ordinal ∧
        read format pattern = .finite (format.dyadicAt negative ordinal) := by
  by_cases isFinite : format.isFinite pattern = true
  · obtain ⟨negative, ordinal, finite, -, rfl⟩ := Format.exists_signBit_add fits isFinite
    rw [read_signBit_add negative finite]
    rcases Nat.eq_zero_or_pos ordinal with rfl | positive
    · exact Or.inr (Or.inr (Or.inl ⟨negative, if_pos rfl⟩))
    · rw [if_neg positive.ne']
      exact Or.inr (Or.inr (Or.inr ⟨negative, ordinal, positive, finite, rfl, rfl⟩))
  · rw [read, format.scaled?_of_not_finite (Bool.not_eq_true _ ▸ isFinite)]
    by_cases nan : format.isNaN pattern = true
    · exact Or.inl (if_pos nan)
    · exact Or.inr (Or.inl ⟨_, if_neg nan⟩)

theorem ofPattern_of_fits (ranged : format.emax + format.fractionBits < exponentLimit)
    (fits : pattern < 2 ^ format.totalBits) :
    ofPattern format pattern = .ok (read format pattern) := by
  rcases read_cases fits with
    nan | ⟨_, infinite⟩ | ⟨_, zero⟩ | ⟨negative, ordinal, -, finite, rfl, -⟩
  · rw [ofPattern, nan]
  · rw [ofPattern, infinite]
  · rw [ofPattern, zero]
  · exact ofPattern_signBit_add ranged negative finite

end Number

/-! ## Operations on patterns -/

variable {operator : Operation} {patterns : List ℕ}

theorem numbersOf_of_fits (ranged : format.emax + format.fractionBits < exponentLimit)
    (fits : ∀ pattern ∈ patterns, pattern < 2 ^ format.totalBits) :
    numbersOf format patterns =
      .ok (patterns.map fun pattern : ℕ => Number.read format pattern) := by
  induction patterns with
  | nil => rfl
  | cons pattern rest induction =>
    rw [List.forall_mem_cons] at fits
    rw [numbersOf, Number.ofPattern_of_fits ranged fits.1, induction fits.2]
    rfl

/-- On patterns of the format an operation ends with its outcome, rounded. -/
theorem Operation.evaluateOn_of_fits
    (ranged : format.emax + format.fractionBits < exponentLimit)
    (fits : ∀ pattern ∈ patterns, pattern < 2 ^ format.totalBits)
    (count : patterns.length = operator.arity) (mode : Mode) :
    operator.evaluateOn format mode patterns =
      .ok ((operator.apply (patterns.map fun pattern : ℕ => Number.read format pattern)).round
        (format.precision + 2) mode) := by
  rw [evaluateOn, numbersOf_of_fits ranged fits]
  simp only [bind, Except.bind, checkCount, List.length_map, if_pos count]
  rfl

namespace Reference

/-- An operation on patterns that are no NaNs is its exact outcome, cut and rounded. -/
theorem operation_of_fits (ranged : format.emax + format.fractionBits < exponentLimit)
    (fits : ∀ pattern ∈ patterns, pattern < 2 ^ format.totalBits)
    (count : patterns.length = operator.arity)
    (numbers : ∀ pattern ∈ patterns, format.isNaN (pattern : ℕ) = false) (mode : Mode) :
    operation operator format mode patterns =
      (Operation.finish format mode ((operator.apply
        (patterns.map fun pattern : ℕ => Number.read format pattern)).round
          (format.precision + 2) .towardZero)).map .ofRounded := by
  have any : ¬ anyNaN format patterns = true := by
    simpa [anyNaN] using numbers
  rw [operation, operationPattern, if_neg any, Operation.evaluateInto_eq,
    Operation.evaluateOn_of_fits ranged fits count]
  rfl

theorem operation_of_isNaN {pattern : ℕ} (among : pattern ∈ patterns)
    (nan : format.isNaN pattern = true) (mode : Mode) :
    operation operator format mode patterns = .ok (Reference.nan format) := by
  have any : anyNaN format patterns = true := by
    rw [anyNaN, List.any_eq_true]
    exact ⟨pattern, among, nan⟩
  rw [operation, operationPattern, if_pos any]
  rfl

end Reference

end LibmAudit
