/-
**Texts of numbers.**

A text may be used where a machine number is asked for: an optional sign before a decimal numeral,
or before the name of an infinity or a NaN in any case, with white space around it.

* `NumberText.ofString?`: reads such a text.
* `NumberText.round`: the nearest value of a format.
-/

import LibmAudit.Decimal.Numeral
import LibmAudit.Format.Round
import LibmAudit.Text.Blank

namespace LibmAudit.Decimal

-- Powers are the built-in ones, whatever else is imported.
attribute [local instance (high)] instPowNat

/-- What the text of a number says. -/
inductive NumberText
  | nan (negative : Bool)
  | infinity (negative : Bool)
  /-- `digits` times ten to the power `power`. -/
  | decimal (negative : Bool) (digits : Nat) (power : Int)
  /-- `significand` times two to the power `exponent`. -/
  | binary (negative : Bool) (significand : Nat) (exponent : Int)

namespace NumberText

/-- White space around a number: the blanks that are no separator controls. -/
def isSpace (char : Char) : Bool :=
  Text.isBlank char && !(28 ≤ char.toNat && char.toNat ≤ 31)

/-- A list of characters without the white space at its two ends. -/
def trim (chars : List Char) : List Char :=
  ((chars.dropWhile isSpace).reverse.dropWhile isSpace).reverse

/-- Reads the text after its sign. -/
def ofUnsigned? (negative : Bool) (chars : List Char) : Option NumberText :=
  let name := String.ofList (chars.map Char.toLower)
  if name = "nan" then some (nan negative)
  else if name = "inf" ∨ name = "infinity" then some (infinity negative)
  else
    match Numeral.decimalOfChars? chars with
    | some (.decimal whole fraction exponentNegative exponent) =>
      let (digits, power) := Numeral.scaled whole fraction exponentNegative exponent
      some (decimal negative digits power)
    | _ => none

/-- Reads the text of a number. -/
def ofString? (text : String) : Option NumberText :=
  let signed := Text.takeSign (trim text.toList)
  ofUnsigned? signed.1 signed.2

/-- The nearest value of a format. A power of ten beyond the range of the format settles the result
by itself. -/
def round (format : Format) : NumberText → Nat
  | nan negative => format.quietNaN negative
  | infinity negative => format.infinity negative
  | decimal negative digits power =>
    if digits = 0 then format.zero negative
    else if format.emax < power then format.infinity negative
    else if (bitLength digits : Int) + power < format.lowestPlace then format.zero negative
    else
      (format.roundRatio .nearestEven negative (digits * 10 ^ power.toNat)
        (10 ^ (-power).toNat)).pattern
  | binary negative significand exponent =>
    (format.roundExact .nearestEven negative significand exponent).pattern

end NumberText

end LibmAudit.Decimal
