/-
**What a text starts with.**

* `isSpace`: the white space of ASCII.
* `skipSpaces`: a text without the white space at its start.
* `takeSign`: an optional sign, and what follows it.
* `leadingInteger?`: the integer at the start of a text, after white space and a sign, and what
  follows it.
-/

import LibmAudit.Text.Digit

namespace LibmAudit.Text

/-- Whether a character is white space of ASCII. -/
def isSpace (char : Char) : Bool :=
  char = ' ' || (9 ≤ char.toNat && char.toNat ≤ 13)

/-- A text without the white space at its start. -/
def skipSpaces (chars : List Char) : List Char := chars.dropWhile isSpace

/-- The number that digits of ASCII write. -/
def readDecimal (digits : List Char) : Nat :=
  readDigits 10 (digits.map fun char => char.toNat - 48)

/-- An optional sign at the start of a text, and what follows it. -/
def takeSign : List Char → Bool × List Char
  | '-' :: rest => (true, rest)
  | '+' :: rest => (false, rest)
  | chars => (false, chars)

/-- The integer at the start of a text, and what follows it. -/
def leadingInteger? (chars : List Char) : Option (Int × List Char) :=
  let (negative, unsigned) := takeSign (skipSpaces chars)
  let digits := unsigned.takeWhile Char.isDigit
  if digits.isEmpty then none
  else
    let magnitude : Int := readDecimal digits
    some (if negative then -magnitude else magnitude, unsigned.dropWhile Char.isDigit)

end LibmAudit.Text
