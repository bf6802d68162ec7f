/-
**Decimal digits.**

* `digitValue?`: the value of a decimal digit of any script. Each script has its ten digits in a
  row.
* `readDigits`: the number that a list of digit values writes.
-/

namespace LibmAudit.Text

/-- The code points of the digits of value zero. -/
def zeroDigits : List Nat := [
  48, 1632, 1776, 1984, 2406, 2534, 2662, 2790, 2918, 3046, 3174, 3302, 3430, 3558, 3664, 3792,
  3872, 4160, 4240, 6112, 6160, 6470, 6608, 6784, 6800, 6992, 7088, 7232, 7248, 42528, 43216, 43264,
  43472, 43504, 43600, 44016, 65296, 66720, 68912, 69734, 69872, 69942, 70096, 70384, 70736, 70864,
  71248, 71360, 71472, 71904, 72016, 72784, 73040, 73120, 92768, 92864, 93008, 120782, 120792,
  120802, 120812, 120822, 123200, 123632, 125264, 130032]

/-- The value of a decimal digit. -/
def digitValue? (char : Char) : Option Nat :=
  if char.toNat < 128 then
    if char.isDigit then some (char.toNat - 48) else none
  else
    (zeroDigits.find? fun first => first ≤ char.toNat && char.toNat < first + 10).map
      (char.toNat - ·)

/-- Whether a character is a decimal digit. -/
def isDigit (char : Char) : Bool := (digitValue? char).isSome

/-- The number written by digit values in a base, the first one the most significant. -/
def readDigits (base : Nat) (digits : List Nat) : Nat :=
  digits.foldl (fun number digit => number * base + digit) 0

end LibmAudit.Text
