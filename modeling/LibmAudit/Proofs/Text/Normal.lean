/-
**Texts before they are brought to lower case.**

* `Text.isNumeric_of_lowerChar`, `isNumeric_of_lowerFrom`: what is a number in lower case is one in
  any case.
* `Text.lowerChar_of_numeric`: of the characters of a number only one has another case.
* `Text.exists_stripChars`: a text is what is left of it, between blanks.
-/

import LibmAudit.Proofs.Text.Numeric

namespace LibmAudit.Text

variable {char : Char} {chars : List Char}

instance (char : Char) : Decidable (IsNumeric char) := inferInstanceAs (Decidable (_ ∨ _))

/-! ## Characters -/

theorem isNumeric_of_toLower : ∀ point < 128,
    IsNumeric (Char.ofNat point).toLower → IsNumeric (Char.ofNat point) := by
  decide +kernel

/-- Beyond the first 128 characters no lower case is a digit, or one of the marks, which come before
the 102nd character. -/
theorem lowerCaseRuns_beyond : ∀ run ∈ lowerCaseRuns,
    128 ≤ run.1 + (run.2.1 - 1) * run.2.2.1 → 102 ≤ run.1 + run.2.2.2 ∧
      ∀ first ∈ zeroDigits, 0 < first ∧
        (((run.1 + (run.2.1 - 1) * run.2.2.1 : ℕ) : ℤ) + run.2.2.2 < first ∨
          (first + 10 : ℤ) ≤ run.1 + run.2.2.2) := by
  decide +kernel

/-- A character of a number is a digit, or its point is that of a mark. -/
theorem IsNumeric.point (numeric : IsNumeric char) :
    char.toNat < 102 ∧ 43 ≤ char.toNat ∨
      ∃ first ∈ zeroDigits, first ≤ char.toNat ∧ char.toNat < first + 10 := by
  rcases numeric with digit | mark
  · obtain ⟨digit, value⟩ := Option.isSome_iff_exists.mp digit
    obtain ⟨first, member, small, point⟩ := digitValue?_eq_some value
    exact Or.inr ⟨first, member, by omega, by omega⟩
  · have marks : List.Forall (fun char => char.toNat < 102 ∧ 43 ≤ char.toNat)
        ['_', '.', '/', 'e', 'E', '+', '-'] := by decide
    exact Or.inl (List.forall_iff_forall_mem.mp marks char mark)

/-- What is a character of a number in lower case is one in any case. -/
theorem isNumeric_of_lowerChar (numeric : IsNumeric (lowerChar char)) : IsNumeric char := by
  unfold lowerChar at numeric
  split at numeric
  · next ascii =>
    have row := isNumeric_of_toLower char.toNat ascii
    rw [Char.ofNat_toNat] at row
    exact row numeric
  · next beyond =>
    dsimp only at numeric
    split at numeric
    · next run found =>
      have inside := List.find?_some found
      simp only [Bool.and_eq_true, decide_eq_true_eq] at inside
      obtain ⟨⟨low, high⟩, -⟩ := inside
      obtain ⟨marks, digits⟩ := lowerCaseRuns_beyond run (List.mem_of_find?_eq_some found)
        ((not_lt.mp beyond).trans high)
      -- The lower case is no character, or between the ends of the run after the step is added.
      have point := numeric.point
      rw [Char.toNat_ofNat] at point
      exfalso
      rcases point with mark | ⟨first, member, digit⟩
      · split at mark <;> omega
      · have apart := digits first member
        split at digit <;> omega
    · exact numeric

/-- Of the characters of a number only the mark of an exponent has another case. -/
theorem lowerChar_of_numeric (numeric : IsNumeric char) : char = 'E' ∨ lowerChar char = char := by
  rcases numeric with digit | mark
  · obtain ⟨digit, value⟩ := Option.isSome_iff_exists.mp digit
    exact Or.inr (lowerChar_of_digit value)
  · have marks : List.Forall (fun char => char = 'E' ∨ lowerChar char = char)
        ['_', '.', '/', 'e', 'E', '+', '-'] := by decide
    exact List.forall_iff_forall_mem.mp marks char mark

/-! ## Texts -/

/-- What is a number in lower case is one in any case. -/
theorem isNumeric_of_lowerFrom (before : List Char)
    (numeric : ∀ char ∈ lowerFrom before chars, IsNumeric char) :
    ∀ char ∈ chars, IsNumeric char := by
  induction chars generalizing before with
  | nil => exact fun _ member => absurd member List.not_mem_nil
  | cons first rest ih =>
    unfold lowerFrom at numeric
    dsimp only at numeric
    obtain ⟨lowered, tail⟩ := List.forall_mem_append.mp numeric
    refine List.forall_mem_cons.mpr ⟨?_, ih (first :: before) tail⟩
    split at lowered
    · exact absurd (lowered 'i' List.mem_cons_self) (by decide)
    · split at lowered
      · have sigma := lowered _ List.mem_cons_self
        split at sigma
        · exact absurd sigma (by decide)
        · exact absurd sigma (by decide)
      · exact isNumeric_of_lowerChar (lowered _ List.mem_cons_self)

/-- A text is what is left of it, between blanks. -/
theorem exists_stripChars (chars : List Char) : ∃ before after,
    (∀ char ∈ before, isBlank char = true) ∧ (∀ char ∈ after, isBlank char = true) ∧
      chars = before ++ stripChars chars ++ after := by
  refine ⟨chars.takeWhile isBlank, ((chars.dropWhile isBlank).reverse.takeWhile isBlank).reverse,
    fun _ member => List.mem_takeWhile_imp member, ?_, ?_⟩
  · intro char member
    exact List.mem_takeWhile_imp (List.mem_reverse.mp member)
  · unfold stripChars
    rw [List.append_assoc, ← List.reverse_append, List.takeWhile_append_dropWhile,
      List.reverse_reverse, List.takeWhile_append_dropWhile]

end LibmAudit.Text
