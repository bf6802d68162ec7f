/-
**Texts of plain numbers.**

* `numberChars`: the characters that the text of a number may have.
* `Decimal.IsNumberText.plainNumberText`: it has no others.
-/

import LibmAudit.Proofs.Text.Digits
import LibmAudit.Value.Basic

namespace LibmAudit

attribute [local instance (high)] instPowNat

/-- The characters of the text of a number: digits, marks, and the letters of its names. -/
def numberChars : List Char :=
  ['0', '1', '2', '3', '4', '5', '6', '7', '8', '9', '.', 'e', '+', '-', 'n', 'a', 'i', 'f']

theorem isPlain_of_mem_numberChars {char : Char} (member : char ∈ numberChars) :
    Text.isPlain char = true ∧ char ≠ 'x' := by
  have all : List.Forall (fun char => Text.isPlain char = true ∧ char ≠ 'x') numberChars := by
    decide
  exact List.forall_iff_forall_mem.mp all char member

namespace Decimal

/-- A text all of whose characters are those of numbers. -/
def IsNumberText (text : String) : Prop := ∀ char ∈ text.toList, char ∈ numberChars

namespace IsNumberText

variable {first second : String}

/-- The characters of a given text are looked at one by one. -/
theorem of_forall (all : List.Forall (· ∈ numberChars) first.toList) : IsNumberText first :=
  List.forall_iff_forall_mem.mp all

theorem append (left : IsNumberText first) (right : IsNumberText second) :
    IsNumberText (first ++ second) := by
  intro char member
  rw [String.toList_append] at member
  exact (List.mem_append.mp member).elim (left char) (right char)

theorem ofList {chars : List Char} (all : ∀ char ∈ chars, char ∈ numberChars) :
    IsNumberText (String.ofList chars) := by
  intro char member
  rw [String.toList_ofList] at member
  exact all char member

theorem toString_nat (number : ℕ) : IsNumberText (toString number) := by
  intro char member
  have digits : (toString number).toList = Nat.toDigits 10 number := by simp
  rw [digits] at member
  obtain ⟨digit, small, rfl⟩ := Text.mem_toDigits (by decide) member
  have all : ∀ digit < 10, Nat.digitChar digit ∈ numberChars := by decide
  exact all digit small

theorem replicate_zero (count : ℕ) : IsNumberText (String.ofList (List.replicate count '0')) := by
  refine ofList fun char member => ?_
  rw [List.eq_of_mem_replicate member]
  decide

theorem padZeros (width : ℕ) (text : IsNumberText first) :
    IsNumberText (LibmAudit.padZeros width first) :=
  (replicate_zero _).append text

theorem exponentText (exponent : ℤ) : IsNumberText (Decimal.exponentText exponent) := by
  refine append ?_ (padZeros 2 (toString_nat _))
  split <;> exact of_forall (by decide)

theorem writePositional (digits : ℕ) (power : ℤ) :
    IsNumberText (Decimal.writePositional digits power) := by
  unfold Decimal.writePositional
  dsimp only
  split
  · exact append (append (toString_nat _) (replicate_zero _)) (of_forall (by decide))
  · have padded := padZeros ((-power).toNat + 1) (toString_nat digits)
    refine append (append (ofList fun char member => ?_) (of_forall (by decide)))
      (ofList fun char member => ?_)
    · exact padded char (List.mem_of_mem_take member)
    · exact padded char (List.mem_of_mem_drop member)

theorem writeScientific (digits : ℕ) (power : ℤ) :
    IsNumberText (Decimal.writeScientific digits power) := by
  have shown := toString_nat digits
  unfold Decimal.writeScientific
  dsimp only
  refine append (append (append (ofList fun char member => ?_) ?_) (of_forall (by decide)))
    (exponentText _)
  · exact shown char (List.mem_of_mem_take member)
  · split
    · exact of_forall trivial
    · exact append (of_forall (by decide))
        (ofList fun char member => shown char (List.mem_of_mem_drop member))

theorem shortestText (format : Format) (pattern : ℕ) (positional : ℕ → ℤ → ℕ → ℤ → Bool) :
    IsNumberText (LibmAudit.shortestText format pattern positional) := by
  unfold LibmAudit.shortestText
  split
  · dsimp only
    split
    · exact writePositional _ _
    · exact writeScientific _ _
  · exact of_forall trivial

/-- The text of a number has no other characters. -/
theorem plainNumberText (pattern : ℕ) : IsNumberText (LibmAudit.plainNumberText pattern) := by
  unfold LibmAudit.plainNumberText numberText
  split
  · exact of_forall (by decide)
  · refine append ?_ ?_
    · split <;> exact of_forall (by decide)
    · split
      · exact of_forall (by decide)
      · split
        · exact of_forall (by decide)
        · exact shortestText _ _ _

end IsNumberText

end Decimal

end LibmAudit
