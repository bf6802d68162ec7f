/-
**Decimal numerals.**

A numeral has digits of any script, with single underscores between them. It is a decimal with a
point and an exponent, or a quotient of two integers.

* `Numeral.ofChars?`: reads a numeral without a sign that ends with the text.
* `Numeral.ratio?`: the number as a quotient; a quotient by zero has none.
* `Numeral.longestRun`: the length of the longest run of digits.
-/

import LibmAudit.Text.Leading

namespace LibmAudit.Decimal

-- Powers are the built-in ones, whatever else is imported.
attribute [local instance (high)] instPowNat

/-- A numeral without a sign, by the values of its digits. -/
inductive Numeral
  /-- `whole.fraction` times ten to the power `exponent`. -/
  | decimal (whole fraction : List Nat) (exponentNegative : Bool) (exponent : List Nat)
  /-- One integer over another. -/
  | quotient (numerator denominator : List Nat)

/-! ## Reading -/

/-- The digits that follow a digit, each possibly after one underscore, and what follows them. -/
def digitsAfter : List Char → List Nat × List Char
  | '_' :: char :: rest =>
    match Text.digitValue? char with
    | some digit => (digit :: (digitsAfter rest).1, (digitsAfter rest).2)
    | none => ([], '_' :: char :: rest)
  | char :: rest =>
    match Text.digitValue? char with
    | some digit => (digit :: (digitsAfter rest).1, (digitsAfter rest).2)
    | none => ([], char :: rest)
  | [] => ([], [])

/-- The longest run of digits at the start of a text, and what follows it. -/
def digitRun : List Char → List Nat × List Char
  | char :: rest =>
    match Text.digitValue? char with
    | some digit => (digit :: (digitsAfter rest).1, (digitsAfter rest).2)
    | none => ([], char :: rest)
  | [] => ([], [])

/-- An optional point with digits. -/
def takeFraction : List Char → List Nat × List Char
  | '.' :: rest => digitRun rest
  | chars => ([], chars)

/-- The exponent after its mark; nothing may follow it. -/
def exponentOf? (chars : List Char) : Option (Bool × List Nat) :=
  match digitRun (Text.takeSign chars).2 with
  | ([], _) => none
  | (digits, []) => some ((Text.takeSign chars).1, digits)
  | _ => none

/-- What may follow the digits before and after the point: nothing or an exponent. -/
def exponentPart? : List Char → Option (Bool × List Nat)
  | [] => some (false, [])
  | 'e' :: rest | 'E' :: rest => exponentOf? rest
  | _ => none

namespace Numeral

/-- Reads a decimal that ends with the text. It has a digit before or right after the point. -/
def decimalOfChars? (chars : List Char) : Option Numeral :=
  let (whole, rest) := digitRun chars
  let (fraction, ending) := takeFraction rest
  if whole.isEmpty && fraction.isEmpty then none
  else (exponentPart? ending).map fun (negative, exponent) =>
    decimal whole fraction negative exponent

/-- Reads a numeral that ends with the text. -/
def ofChars? (chars : List Char) : Option Numeral :=
  match digitRun chars with
  | (numerator, '/' :: rest) =>
    match numerator, digitRun rest with
    | [], _ | _, ([], _) => none
    | numerator, (denominator, []) => some (quotient numerator denominator)
    | _, _ => none
  | _ => decimalOfChars? chars

/-! ## Meaning -/

/-- The length of the longest run of digits. -/
def longestRun : Numeral → Nat
  | decimal whole fraction _ exponent =>
    max whole.length (max fraction.length exponent.length)
  | quotient numerator denominator => max numerator.length denominator.length

/-- All digits of a decimal before its exponent, and the power of ten of the last one. -/
def scaled (whole fraction : List Nat) (negative : Bool) (exponent : List Nat) : Nat × Int :=
  let shift : Int := Text.readDigits 10 exponent
  (Text.readDigits 10 (whole ++ fraction),
    (if negative then -shift else shift) - fraction.length)

/-- The number as numerator and denominator. -/
def ratio? : Numeral → Option (Nat × Nat)
  | decimal whole fraction negative exponent =>
    let (digits, power) := scaled whole fraction negative exponent
    some (digits * 10 ^ power.toNat, 10 ^ (-power).toNat)
  | quotient numerator denominator =>
    if Text.readDigits 10 denominator = 0 then none
    else some (Text.readDigits 10 numerator, Text.readDigits 10 denominator)

end Numeral

end LibmAudit.Decimal
