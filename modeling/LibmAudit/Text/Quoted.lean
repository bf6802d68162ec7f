/-
**Quoted text.**

* `quote`: a text between single quotes, or between double quotes if it holds a single quote and no
  double one. The quote, the backslash and what is not printable are escaped.
-/

import LibmAudit.Binary
import LibmAudit.Text.Printable

namespace LibmAudit.Text

/-- The quotes put around a text. -/
def quoteFor (chars : List Char) : Char :=
  if chars.contains '\'' && !chars.contains '"' then '"' else '\''

/-- One character inside quotes of the given kind. -/
def escapeChar (mark char : Char) : List Char :=
  if char = mark ∨ char = '\\' then ['\\', char]
  else if char = '\n' then ['\\', 'n']
  else if char = '\r' then ['\\', 'r']
  else if char = '\t' then ['\\', 't']
  else if isPrintable char then [char]
  else
    let point := char.toNat
    if point < 0x100 then '\\' :: 'x' :: (padZeros 2 (hexDigits point)).toList
    else if point < 0x10000 then '\\' :: 'u' :: (padZeros 4 (hexDigits point)).toList
    else '\\' :: 'U' :: (padZeros 8 (hexDigits point)).toList

/-- A text between quotes. -/
def quote (text : String) : String :=
  let chars := text.toList
  let mark := quoteFor chars
  String.ofList (mark :: chars.flatMap (escapeChar mark) ++ [mark])

end LibmAudit.Text
