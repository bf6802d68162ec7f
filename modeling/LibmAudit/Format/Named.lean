/-
**Names of formats and rounding modes.**

Names are read without regard to blanks around them and to case.

* `Mode.ofName?`, `Mode.parse`: the rounding mode with a name. Properties are plain data, so that the
  mode in them is always a name; a mode itself is given beside them (`ContextChoice.mode`).
* `Mode.ofIdentifier?`, `Mode.identify`: the rounding mode with an identifier.
* `Mode.decode`: the rounding mode with an identifier or a code.
* `Format.ofName?`: the format with a name. The extended format is bound to its machine type by some
  of its names: `NamedFormat.carrier?` tells.
-/

import LibmAudit.Fault
import LibmAudit.Mode
import LibmAudit.Text.Blank
import LibmAudit.Text.LowerCase

namespace LibmAudit

/-- A text as a name: without the blanks around it, in lower case. -/
def nameOf (text : String) : String :=
  Text.lowerCase (Text.strip text)

namespace Datum

mutual
/-- The integers that the text of a datum shows. -/
def integers : Datum → List Int
  | int value => [value]
  | list items => integersOf items
  | map entries => integersOfEntries entries
  | _ => []

/-- The integers that the texts of several data show. -/
def integersOf : List Datum → List Int
  | [] => []
  | item :: rest => integers item ++ integersOf rest

/-- The integers that the text of a map shows. -/
def integersOfEntries : List (String × Datum) → List Int
  | [] => []
  | (_, item) :: rest => integers item ++ integersOfEntries rest
end

/-- A datum as a name. Integers in it must not be too long to write. -/
def toName (datum : Datum) : Except Fault String :=
  if datum.integers.all isWritable then .ok (nameOf datum.plain)
  else .error .integerTooLongToWrite

end Datum

/-! ## Rounding modes -/

namespace Mode

/-- The names of a rounding mode. -/
def names : Mode → List String
  | nearestEven =>
    ["rne", "nearesteven", "roundnearesteven", "nearesttiestoeven", "roundnearesttiestoeven",
      "tonearest"]
  | nearestAway =>
    ["rna", "nearestaway", "roundnearestaway", "nearesttiestoaway", "roundnearesttiestoaway"]
  | up =>
    ["rtp", "topositive", "roundtopositive", "towardpositive", "roundtowardpositive", "upward"]
  | down =>
    ["rtn", "tonegative", "roundtonegative", "towardnegative", "roundtowardnegative", "downward"]
  | towardZero => ["rtz", "tozero", "roundtozero", "towardzero", "roundtowardzero"]
  | awayFromZero => ["raz", "awayzero", "roundawayzero"]

/-- The rounding mode with a name. -/
def ofName? (name : String) : Option Mode :=
  all.find? fun mode => mode.names.contains name

/-- The mode with an identifier, `RNE` or `ROUND_NEAREST_EVEN`, which is read as it is. -/
def ofIdentifier? (identifier : String) : Option Mode :=
  match identifier with
  | "RNE" | "ROUND_NEAREST_EVEN" => some nearestEven
  | "RNA" | "ROUND_NEAREST_AWAY" => some nearestAway
  | "RTP" | "ROUND_UP" => some up
  | "RTN" | "ROUND_DOWN" => some down
  | "RTZ" | "ROUND_TO_ZERO" => some towardZero
  | "RAZ" | "ROUND_AWAY_ZERO" => some awayFromZero
  | _ => none

/-- The rounding mode that a datum identifies. -/
def identify (identifier : Datum) : Except Fault Mode := findKey ofIdentifier? identifier

/-- The rounding mode that a datum encodes, by its identifier or its code. -/
def decode (code : Datum) : Except Fault Mode :=
  let coded (value : Int) : Except Fault Mode :=
    match ofCode? value with
    | some mode => .ok mode
    | none => .error (.unknownModeCode code)
  match code with
  | .text _ => identify code
  | .int value => coded value
  | .bool value => coded value.toNat
  | code => .error (.unknownModeCode code)

/-- The rounding mode that a datum names. -/
def parse (rounding : Datum) : Except Fault Mode := do
  match ofName? (← rounding.toName) with
  | some mode => return mode
  | none => throw (.unknownMode rounding)

end Mode

/-! ## Formats -/

/-- What the name of a format says: the format, and its machine type if the name binds it. -/
structure NamedFormat where
  format : Format
  carrier? : Option Carrier := none

namespace NamedFormat

/-- The names of formats. -/
def table : List (List String × NamedFormat) := [
  (["extended", "longdouble", "long double", "long_double"], ⟨Format.extended, some .extended⟩),
  (["binary16", "float16", "float16_t", "half"], ⟨Format.half, none⟩),
  (["binary32", "float32", "float32_t", "single", "float", "narrow"], ⟨Format.single, none⟩),
  (["binary64", "float64", "float64_t", "double", "standard"], ⟨Format.double, none⟩),
  (["binary80", "float80"], ⟨Format.extended, none⟩),
  (["binary128", "float128", "float128_t", "quadruple"], ⟨Format.quadruple, none⟩)]

/-- The format with a name. -/
def ofName? (name : String) : Option NamedFormat :=
  (table.find? fun row => row.1.contains name).map (·.2)

/-- The format that a datum names. -/
def parse (precision : Datum) : Except Fault NamedFormat := do
  match ofName? (← precision.toName) with
  | some named => return named
  | none => throw (.unknownPrecision precision)

end NamedFormat

/-- The formats that have a short name of their own. -/
def Format.aliases : List (String × Format) := [
  ("binary16", Format.half), ("binary32", Format.single), ("binary64", Format.double),
  ("binary128", Format.quadruple), ("extended", Format.extended), ("narrow", Format.single),
  ("standard", Format.double)]

/-- The short names of a format. -/
def Format.aliasesOf (format : Format) : List String :=
  (Format.aliases.filter fun entry => entry.2 = format).map (·.1)

end LibmAudit
