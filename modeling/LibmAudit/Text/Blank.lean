/-
**Blank characters.**

* `isBlank`: white space, line ends and the four separator controls.
* `strip`: a text without the blanks at its two ends.
-/

namespace LibmAudit.Text

/-- Whether a character is blank. -/
def isBlank (char : Char) : Bool :=
  let point := char.toNat
  (9 ≤ point && point ≤ 13) || (28 ≤ point && point ≤ 32) || point == 0x85 || point == 0xa0 ||
    point == 0x1680 || (0x2000 ≤ point && point ≤ 0x200a) || point == 0x2028 || point == 0x2029 ||
    point == 0x202f || point == 0x205f || point == 0x3000

/-- A list of characters without the blanks at its two ends. -/
def stripChars (chars : List Char) : List Char :=
  ((chars.dropWhile isBlank).reverse.dropWhile isBlank).reverse

/-- A text without the blanks at its two ends. -/
def strip (text : String) : String :=
  String.ofList (stripChars text.toList)

/-- The white space of ASCII is blank. -/
theorem isBlank_of_isWhitespace (char : Char) (space : char.isWhitespace = true) :
    isBlank char = true := by
  simp only [Char.isWhitespace, Bool.or_eq_true, decide_eq_true_eq] at space
  rcases space with ((rfl | rfl) | rfl) | rfl <;> rfl

end LibmAudit.Text
