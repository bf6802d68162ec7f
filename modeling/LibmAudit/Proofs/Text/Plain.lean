/-
**Texts that are read as they are.**

* `Text.isPlain`: a character of ASCII that is neither blank nor a capital.
* `Text.strip_of_plain`, `lowerCase_of_plain`: a text of such characters stays as it is.
-/

import LibmAudit.Text.Blank
import LibmAudit.Text.LowerCase
import Mathlib

namespace LibmAudit.Text

/-- Whether a character is in ASCII and neither blank nor a capital. -/
def isPlain (char : Char) : Bool :=
  decide (char.toNat < 128) && !char.isUpper && !isBlank char

variable {chars : List Char}

theorem not_isBlank_of_isPlain {char : Char} (plain : isPlain char = true) :
    isBlank char = false := by
  simp only [isPlain, Bool.and_eq_true, Bool.not_eq_true'] at plain
  exact plain.2

/-- A character that is no capital is its own lower case. -/
theorem lowerChar_of_isPlain {char : Char} (plain : isPlain char = true) :
    char.toNat < 128 ∧ lowerChar char = char := by
  simp only [isPlain, Bool.and_eq_true, Bool.not_eq_true', decide_eq_true_eq] at plain
  obtain ⟨⟨ascii, small⟩, -⟩ := plain
  refine ⟨ascii, ?_⟩
  rw [lowerChar, if_pos ascii]
  exact Char.toLower_eq_of_not_isUpper (by simp [small])

theorem dropWhile_isBlank (plain : ∀ char ∈ chars, isPlain char = true) :
    chars.dropWhile isBlank = chars := by
  cases chars with
  | nil => rfl
  | cons char rest =>
    have first := not_isBlank_of_isPlain (plain char List.mem_cons_self)
    rw [List.dropWhile_cons_of_neg (by simp [first])]

/-- There are no blanks to leave out. -/
theorem strip_of_plain {text : String} (plain : ∀ char ∈ text.toList, isPlain char = true) :
    strip text = text := by
  have back : ∀ char ∈ text.toList.reverse, isPlain char = true := by
    intro char member
    exact plain char (List.mem_reverse.mp member)
  rw [strip, stripChars, dropWhile_isBlank plain, dropWhile_isBlank back, List.reverse_reverse,
    String.ofList_toList]

theorem lowerFrom_of_plain (before : List Char) (plain : ∀ char ∈ chars, isPlain char = true) :
    lowerFrom before chars = chars := by
  induction chars generalizing before with
  | nil => rfl
  | cons char rest ih =>
    obtain ⟨ascii, same⟩ := lowerChar_of_isPlain (plain char List.mem_cons_self)
    have tail := ih (char :: before) fun other member => plain other (List.mem_cons_of_mem _ member)
    rw [lowerFrom, tail, if_neg (by omega), if_neg (by omega), same]
    rfl

/-- There are no capitals. -/
theorem lowerCase_of_plain {text : String} (plain : ∀ char ∈ text.toList, isPlain char = true) :
    lowerCase text = text := by
  rw [lowerCase, lowerFrom_of_plain [] plain, String.ofList_toList]

end LibmAudit.Text
