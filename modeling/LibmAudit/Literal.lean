/-
**Literals.**

An entry of a table row writes a pattern or an integer.

* `Format.decode`: a literal of a float slot as a pattern. Patterns, and numbers of the machine type
  of the format, stand for themselves. Integers and hexadecimal texts must be exact, decimal texts
  are rounded to nearest even; a plain number counts as its shortest decimal text.
* `decodeInteger`: a literal of an integer slot.
-/

import LibmAudit.Decimal.Numeral
import LibmAudit.Format.Round
import LibmAudit.Text.Blank
import LibmAudit.Text.LowerCase

namespace LibmAudit

-- Powers are the built-in ones, whatever else is imported.
attribute [local instance (high)] instPowNat

/-! ## Texts -/

/-- The digits of a hexadecimal literal, its point and its exponent. -/
structure HexParts where
  negative : Bool
  whole : List Char
  fraction : List Char
  exponentNegative : Bool
  exponent : List Char

/-- Whether a character is a hexadecimal digit in lower case. -/
def isHexDigit (char : Char) : Bool :=
  char.isDigit || ('a' ≤ char && char ≤ 'f')

/-- The value of a hexadecimal digit in lower case. -/
def hexDigitValue (char : Char) : Nat :=
  if char.isDigit then char.toNat - 48 else char.toNat - 87

/-- The digits after an optional point, and what follows them. -/
def takeHexFraction : List Char → List Char × List Char
  | '.' :: rest => (rest.takeWhile isHexDigit, rest.dropWhile isHexDigit)
  | chars => ([], chars)

/-- Reads `0x`, digits with an optional point, `p` and a decimal exponent, after an optional
sign. -/
def HexParts.ofChars? (chars : List Char) : Option HexParts :=
  let (negative, unsigned) := Text.takeSign chars
  match unsigned with
  | '0' :: 'x' :: digits =>
    let (fraction, ending) := takeHexFraction (digits.dropWhile isHexDigit)
    match ending with
    | 'p' :: power =>
      let (exponentNegative, exponent) := Text.takeSign power
      if exponent.isEmpty || exponent.any (!Char.isDigit ·) then none
      else some ⟨negative, digits.takeWhile isHexDigit, fraction, exponentNegative, exponent⟩
    | _ => none
  | _ => none

/-- The number that hexadecimal digits write. -/
def readHex (digits : List Char) : Nat :=
  Text.readDigits 16 (digits.map hexDigitValue)

/-- The integer that decimal digits write after a sign; they must be few enough. -/
def readExponent (negative : Bool) (digits : List Char) : Except Fault Int :=
  if digitLimit < digits.length then .error (.digitsTooLongToRead digits.length)
  else
    let magnitude : Int := Text.readDecimal digits
    .ok (if negative then -magnitude else magnitude)

namespace Format

/-- A hexadecimal literal, which must be exact. -/
def decodeHex (format : Format) (parts : HexParts) (literal : String) : Except Fault Nat := do
  if parts.whole.isEmpty && parts.fraction.isEmpty then
    throw (.hexadecimalEmpty literal)
  let exponent ← readExponent parts.exponentNegative parts.exponent
  let rounded ← format.round .nearestEven parts.negative (readHex (parts.whole ++ parts.fraction))
    (exponent - 4 * parts.fraction.length) false
  if rounded.flags.inexact || rounded.flags.overflow then
    throw (.hexadecimalInexact literal format.exponentBits format.totalBits)
  return rounded.pattern

/-- A decimal literal, rounded to nearest even. Its power of ten is exact, however long it is. A shift
asks for all its digits at once, and `Format.round` refuses one that is too long; a power is
multiplied up from short factors, and no length is known in advance at which that ends. -/
def decodeDecimal (format : Format) (text : String) : Except Fault Nat :=
  let (negative, unsigned) := Text.takeSign text.toList
  match Decimal.Numeral.ofChars? unsigned with
  | some numeral =>
    if digitLimit < numeral.longestRun then .error (.undecodableText text)
    else
      match numeral.ratio? with
      | some (numerator, denominator) =>
        .ok (format.roundRatio .nearestEven negative numerator denominator).pattern
      | none => .error (.undecodableText text)
  | none => .error (.undecodableText text)

/-- The pattern that a name after an optional sign stands for. -/
def decodeName? (format : Format) (text : String) : Option Nat :=
  let (negative, unsigned) := Text.takeSign text.toList
  let name := String.ofList unsigned
  if name = "nan" then some (format.quietNaN negative)
  else if name = "inf" ∨ name = "infinity" then some (format.infinity negative)
  else none

/-- A text, without regard to blanks around it and to its case. -/
def decodeText (format : Format) (literal : String) : Except Fault Nat :=
  let text := Text.lowerCase (Text.strip literal)
  match format.decodeName? text with
  | some pattern => .ok pattern
  | none =>
    match HexParts.ofChars? text.toList with
    | some parts => format.decodeHex parts literal
    | none => format.decodeDecimal text

/-- An integer, which must be exact. -/
def decodeExact (format : Format) (value : Int) : Except Fault Nat :=
  let rounded := format.roundInteger .nearestEven value
  if rounded.flags.inexact || rounded.flags.overflow then
    refuse (.integerInexact value format.exponentBits format.totalBits)
  else .ok rounded.pattern

/-- A literal of a float slot as a pattern of the format. -/
def decode (format : Format) : Value → Except Fault Nat
  | .bits pattern =>
    if 2 ^ format.totalBits ≤ pattern then .error (.bitsTooWide pattern format.totalBits)
    else .ok pattern
  | .bool value => .error (.boolAsNumber value)
  | .int value => format.decodeExact value
  | .scalar carrier pattern =>
    if format.carrier? = some carrier then .ok pattern
    else .error (.foreignScalar (.scalar carrier pattern))
  | .number pattern => format.decodeText (plainNumberText pattern)
  | .text literal => format.decodeText literal
  | value => refuse (.undecodableValue value)

end Format

/-- The pattern of a literal that gives one: an integer that is not negative. -/
def Value.bitsOf : Value → Except Fault Nat
  | .int value => if value < 0 then refuse (.bitsNegative value) else .ok value.toNat
  | value => refuse (.bitsNotInteger value)

/-- The bounds of an integer type. -/
def IntegerKind.bounds : IntegerKind → Int × Int
  | int8 => (-128, 127)
  | int32 => (-2147483648, 2147483647)
  | int64 => (-9223372036854775808, 9223372036854775807)
  | uint8 => (0, 255)

/-- An integer of fixed width, which must be within its bounds. -/
def Value.fixedOf (kind : IntegerKind) (value : Int) : Except Fault Value :=
  let within (bounds : Int × Int) : Bool := decide (bounds.1 ≤ value ∧ value ≤ bounds.2)
  if !within IntegerKind.int64.bounds then .error .integerTooWide
  else if within kind.bounds then .ok (.fixed kind value)
  else .error (.integerOutOfBounds value kind)

/-- The hash of a pattern: its residue modulo a Mersenne prime. -/
def patternHash (pattern : Nat) : Nat := pattern % (2 ^ (61 : Nat) - 1)

/-- A literal of an integer slot. -/
def decodeInteger : Value → Except Fault Int
  | .bool value => .error (.boolAsInteger value)
  | .int value => .ok value
  | .fixed _ value => .ok value
  | value => refuse (.notAnInteger value)

end LibmAudit
