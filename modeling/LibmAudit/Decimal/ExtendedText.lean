/-
**Texts of extended numbers.**

The extended type reads texts in its own way: white space only at the start, digits of ASCII without
underscores, in decimal or, after `0x`, in hexadecimal with a power of two. A text ends at its first
zero character, and nothing may follow the number.

* `NumberText.ofExtended?`: reads such a text.
-/

import LibmAudit.Decimal.NumberText
import LibmAudit.Literal
import LibmAudit.Text.Leading

namespace LibmAudit.Decimal.NumberText

/-- A text up to its first zero character. -/
def beforeZero (text : String) : List Char := text.toList.takeWhile (· ≠ '\x00')

/-- What follows a name, in any case, at the start of a text. -/
def afterName? (name : String) (chars : List Char) : Option (List Char) :=
  if name.toList = (chars.take name.length).map Char.toLower then some (chars.drop name.length)
  else none

/-- Whether what follows `nan` is nothing, or letters, digits and underscores in parentheses, of
which the last one may be missing. -/
def endsNaN (chars : List Char) : Bool :=
  match chars with
  | [] => true
  | '(' :: inner =>
    match inner.dropWhile fun char => char.isAlphanum || char = '_' with
    | [] | [')'] => true
    | _ => false
  | _ => false

/-- An optional point with digits, and what follows them. -/
def takeFraction (accepts : Char → Bool) : List Char → List Char × List Char
  | '.' :: rest => (rest.takeWhile accepts, rest.dropWhile accepts)
  | chars => ([], chars)

/-- An exponent that ends the text, after its mark; without one the exponent is zero. -/
def exponentAfter? (mark : Char) : List Char → Option Int
  | [] => some 0
  | char :: rest =>
    let (negative, digits) := Text.takeSign rest
    if char.toLower = mark && !digits.isEmpty && digits.all Char.isDigit then
      let magnitude : Int := Text.readDecimal digits
      some (if negative then -magnitude else magnitude)
    else none

/-- Reads hexadecimal digits after `0x`. -/
def hexadecimal? (negative : Bool) (chars : List Char) : Option NumberText :=
  let lower := chars.map Char.toLower
  let whole := lower.takeWhile isHexDigit
  let (fraction, ending) := takeFraction isHexDigit (lower.dropWhile isHexDigit)
  if whole.isEmpty && fraction.isEmpty then none
  else (exponentAfter? 'p' ending).map fun exponent =>
    binary negative (readHex (whole ++ fraction)) (exponent - 4 * fraction.length)

/-- Reads decimal digits. -/
def plainDecimal? (negative : Bool) (chars : List Char) : Option NumberText :=
  let whole := chars.takeWhile Char.isDigit
  let (fraction, ending) := takeFraction Char.isDigit (chars.dropWhile Char.isDigit)
  if whole.isEmpty && fraction.isEmpty then none
  else (exponentAfter? 'e' ending).map fun exponent =>
    decimal negative (Text.readDecimal (whole ++ fraction)) (exponent - fraction.length)

/-- Reads digits after a sign. -/
def digits? (negative : Bool) (chars : List Char) : Option NumberText :=
  match afterName? "0x" chars with
  | some digits => hexadecimal? negative digits
  | none => plainDecimal? negative chars

/-- Reads a number that starts with its sign. A NaN loses the sign. -/
def signed? (chars : List Char) : Option NumberText :=
  let (negative, unsigned) := Text.takeSign chars
  match afterName? "nan" unsigned, afterName? "inf" unsigned with
  | some rest, _ => if endsNaN rest then some (nan false) else none
  | _, some rest =>
    if rest.isEmpty || afterName? "inity" rest = some [] then some (infinity negative) else none
  | none, none => digits? negative unsigned

/-- Reads the text of an extended number. White space alone is zero. -/
def ofExtended? (text : String) : Option NumberText :=
  let chars := beforeZero text
  match Text.skipSpaces chars with
  | [] => if chars.isEmpty then none else some (decimal false 0 0)
  | chars => signed? chars

end LibmAudit.Decimal.NumberText
