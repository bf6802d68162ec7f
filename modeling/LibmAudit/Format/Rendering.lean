/-
**Patterns as text.**

* `Format.render`: a value in hexadecimal with a binary exponent, the leading significand bit before
  the point and no trailing zeros; infinities and NaNs by name.
* `Format.renderFields`: the three fields in binary, with the leading bit that is not stored.
-/

import LibmAudit.Format.Pattern

namespace LibmAudit.Format

-- Powers are the built-in ones, whatever else is imported.
attribute [local instance (high)] instPowNat

/-- Binary digits, padded with zeros on the left. -/
def binaryDigits (width n : Nat) : String :=
  padZeros width (String.ofList (Nat.toDigits 2 n))

/-- A decimal integer that always shows its sign. -/
def signedDecimal (i : Int) : String :=
  if i < 0 then toString i else "+" ++ toString i

/-- A text without its trailing zeros. -/
def dropTrailingZeros (digits : String) : String :=
  String.ofList (digits.toList.reverse.dropWhile (· == '0')).reverse

/-- The hexadecimal digits of a fraction field after the point, without trailing zeros. -/
def fractionDigits (format : Format) (fraction : Nat) : String :=
  let count := (format.fractionBits + 3) / 4
  dropTrailingZeros
    (padZeros count (hexDigits (fraction * 2 ^ (4 * count - format.fractionBits))))

/-- A value in hexadecimal, `0x1.8p+1` for three. -/
def render (format : Format) (pattern : Int) : String :=
  let sign := if format.isNegative pattern then "-" else ""
  let field := format.exponentField pattern
  let fraction := format.fractionField pattern
  if field = format.exponentMask then
    sign ++ (if fraction = 0 then "inf" else "nan")
  else if field = 0 ∧ fraction = 0 then
    sign ++ "0x0p+0"
  else
    let leading := if field = 0 then "0" else "1"
    let exponent := if field = 0 then format.emin else (field : Int) - format.bias
    let digits := format.fractionDigits fraction
    sign ++ "0x" ++ leading ++ (if digits.isEmpty then "" else "." ++ digits) ++ "p" ++
      signedDecimal exponent

/-- The fields of a pattern in binary. -/
def renderFields (format : Format) (pattern : Int) : String :=
  let field := format.exponentField pattern
  let hidden := if field = 0 ∨ field = format.exponentMask then "0" else "1"
  "float" ++ toString format.totalBits ++ "(" ++ toString format.exponentBits ++ "," ++
    toString format.precision ++ "): " ++ (if format.isNegative pattern then "1" else "0") ++ " " ++
    binaryDigits format.exponentBits field ++ " (" ++ hidden ++ ") " ++
    binaryDigits format.fractionBits (format.fractionField pattern)

end LibmAudit.Format
