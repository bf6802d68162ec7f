/-
**Characters of numbers.**

* `Text.digit_cases`: a property of the digits of every script is checked digit by digit.
* `Text.IsNumeric`: digits of any script and the marks of a number.
* `Text.stripChars_append`: blanks around a text without blanks are left out.
* `Text.lowerFrom_of_numeric`, `Text.lowerChar_of_digit`: each character of a number has a lower
  case of its own, and a digit keeps its case.
-/

import LibmAudit.Proofs.Text.Plain
import LibmAudit.Text.Digit

namespace LibmAudit.Text

/-! ## Digits -/

/-- A digit is one of ten in a row. -/
theorem digitValue?_eq_some {char : Char} {digit : ℕ} (value : digitValue? char = some digit) :
    ∃ first ∈ zeroDigits, digit < 10 ∧ char.toNat = first + digit := by
  unfold digitValue? at value
  split at value
  · split at value
    · next decimal =>
      refine ⟨48, by decide, ?_⟩
      simp only [Char.isDigit, Bool.and_eq_true, decide_eq_true_eq, ge_iff_le,
        UInt32.le_iff_toNat_le] at decimal
      have low : 48 ≤ char.toNat := decimal.1
      have high : char.toNat ≤ 57 := decimal.2
      have same := Option.some.inj value
      omega
    · exact absurd value nofun
  · obtain ⟨first, found, same⟩ := Option.map_eq_some_iff.mp value
    have inside := List.find?_some found
    simp only [Bool.and_eq_true, decide_eq_true_eq] at inside
    exact ⟨first, List.mem_of_find?_eq_some found, by omega, by omega⟩

/-- What holds of ten characters in a row, for each script, holds of a digit. -/
theorem digit_cases {motive : Char → Prop}
    (rows : ∀ first ∈ zeroDigits, ∀ offset < 10, motive (Char.ofNat (first + offset)))
    {char : Char} {digit : ℕ} (value : digitValue? char = some digit) : motive char := by
  obtain ⟨first, member, small, point⟩ := digitValue?_eq_some value
  have row := rows first member digit small
  rwa [← point, Char.ofNat_toNat] at row

variable {char : Char} {digit : ℕ}

/-- No ten digits in a row meet a run of characters with a lower case. -/
theorem lowerCaseRuns_apart : ∀ first ∈ zeroDigits, first = 48 ∨ 128 ≤ first ∧
    ∀ run ∈ lowerCaseRuns,
      run.1 + (run.2.1 - 1) * run.2.2.1 < first ∨ first + 10 ≤ run.1 := by
  decide +kernel

/-- A digit has no other case. -/
theorem lowerChar_of_digit (value : digitValue? char = some digit) : lowerChar char = char := by
  obtain ⟨first, member, small, point⟩ := digitValue?_eq_some value
  rcases lowerCaseRuns_apart first member with rfl | ⟨beyond, apart⟩
  · have row : ∀ offset < 10, lowerChar (Char.ofNat (48 + offset)) = Char.ofNat (48 + offset) := by
      decide
    have same := row digit small
    rwa [← point, Char.ofNat_toNat] at same
  · rw [lowerChar, if_neg (by omega)]
    dsimp only
    rw [List.find?_eq_none.mpr]
    intro run member'
    have outside := apart run member'
    simp only [Bool.and_eq_true, decide_eq_true_eq]
    omega

/-! ## Numbers -/

/-- The characters of a number, in either case: digits of any script, and marks. -/
def IsNumeric (char : Char) : Prop :=
  (digitValue? char).isSome = true ∨ char ∈ ['_', '.', '/', 'e', 'E', '+', '-']

/-- What holds of the digits and of the marks holds of every character of a number. -/
theorem IsNumeric.cases {motive : Char → Prop}
    (rows : ∀ first ∈ zeroDigits, ∀ offset < 10, motive (Char.ofNat (first + offset)))
    (marks : List.Forall motive ['_', '.', '/', 'e', 'E', '+', '-'])
    (numeric : IsNumeric char) : motive char := by
  rcases numeric with digit | mark
  · obtain ⟨digit, value⟩ := Option.isSome_iff_exists.mp digit
    exact digit_cases rows value
  · exact List.forall_iff_forall_mem.mp marks char mark

theorem IsNumeric.not_isBlank (numeric : IsNumeric char) : isBlank char = false :=
  numeric.cases (motive := fun char => isBlank char = false) (by decide +kernel) (by decide)

/-- The two characters with a lower case that depends on others, or has two characters, are no
part of a number. -/
theorem IsNumeric.simple (numeric : IsNumeric char) : char.toNat ≠ 0x130 ∧ char.toNat ≠ 0x3a3 :=
  numeric.cases (motive := fun char => char.toNat ≠ 0x130 ∧ char.toNat ≠ 0x3a3)
    (by decide +kernel) (by decide)

theorem IsNumeric.ne_x (numeric : IsNumeric char) : char ≠ 'x' :=
  numeric.cases (motive := (· ≠ 'x')) (by decide +kernel) (by decide)

/-! ## Texts -/

variable {chars : List Char}

theorem dropWhile_append_of_not {p : Char → Bool} {first : List Char}
    (dropped : ∀ char ∈ first, p char = true) (kept : ∀ char ∈ chars, p char = false) :
    (first ++ chars).dropWhile p = chars := by
  rw [List.dropWhile_append_of_pos dropped]
  cases chars with
  | nil => rfl
  | cons char rest => rw [List.dropWhile_cons_of_neg (by simp [kept char List.mem_cons_self])]

/-- Blanks around a text without blanks are left out. -/
theorem stripChars_append {before after : List Char} (blank : ∀ char ∈ before, isBlank char = true)
    (blank' : ∀ char ∈ after, isBlank char = true) (dense : ∀ char ∈ chars, isBlank char = false) :
    stripChars (before ++ chars ++ after) = chars := by
  cases chars with
  | nil =>
    have all : ∀ char ∈ before ++ [] ++ after, isBlank char = true := by
      intro char member
      rw [List.append_nil] at member
      exact (List.mem_append.mp member).elim (blank char) (blank' char)
    rw [stripChars, List.dropWhile_eq_nil_iff.mpr all]
    rfl
  | cons char rest =>
    have first := dense char List.mem_cons_self
    rw [stripChars, List.append_assoc, List.dropWhile_append_of_pos blank, List.cons_append,
      List.dropWhile_cons_of_neg (by simp [first]), ← List.cons_append, List.reverse_append,
      dropWhile_append_of_not, List.reverse_reverse]
    · intro other member
      exact blank' other (List.mem_reverse.mp member)
    · intro other member
      exact dense other (List.mem_reverse.mp member)

/-- The lower case of a number is found character by character. -/
theorem lowerFrom_of_numeric (before : List Char) (numeric : ∀ char ∈ chars, IsNumeric char) :
    lowerFrom before chars = chars.map lowerChar := by
  induction chars generalizing before with
  | nil => rfl
  | cons char rest ih =>
    obtain ⟨dotted, sigma⟩ := (numeric char List.mem_cons_self).simple
    have tail := ih (char :: before) fun other member =>
      numeric other (List.mem_cons_of_mem _ member)
    rw [lowerFrom, tail, if_neg dotted, if_neg sigma]
    rfl

end LibmAudit.Text
