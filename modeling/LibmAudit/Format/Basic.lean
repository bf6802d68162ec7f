/-
**Binary floating-point formats.**

A format has `exponentBits` exponent bits in patterns of `totalBits` bits: a sign, the exponent and
the fraction. Its significands have `precision` bits, one more than the fraction, because the
leading bit is not stored.

* `Format.emax`, `Format.emin`, `Format.bias`: the exponent range of normal values.
* `Carrier`: the machine types that store values of a format. `Format.carrier?` finds the one for a
  format, and `Carrier.format` goes back.
* `Format.name`: the text `float(es,nbits)/type`.
-/

import LibmAudit.Binary

namespace LibmAudit

-- Powers are the built-in ones, whatever else is imported.
attribute [local instance (high)] instPowNat

/-- A format with at least two exponent bits and two significand bits. -/
structure Format where
  exponentBits : Nat
  totalBits : Nat
  two_le_exponentBits : 2 ≤ exponentBits := by decide
  exponentBits_add_two_le : exponentBits + 2 ≤ totalBits := by decide
deriving DecidableEq

namespace Format

/-- The number of significand bits, the leading one included. -/
def precision (format : Format) : Nat := format.totalBits - format.exponentBits

/-- The number of stored significand bits. -/
def fractionBits (format : Format) : Nat := format.precision - 1

/-- The exponent of the largest finite values. -/
def emax (format : Format) : Int := ((2 ^ (format.exponentBits - 1) : Nat) : Int) - 1

/-- The exponent of the smallest normal values. -/
def emin (format : Format) : Int := 1 - format.emax

/-- What is added to the exponent of a normal value when it is stored. -/
def bias (format : Format) : Int := format.emax

/-- One less than the exponent of the smallest subnormal value. -/
def floorExponent (format : Format) : Int := format.emin - format.precision

/-- The exponent of the distance between subnormal values. -/
def lowestPlace (format : Format) : Int := format.emin - format.fractionBits

/-- The exponent field of infinities and NaNs. -/
def exponentMask (format : Format) : Nat := 2 ^ format.exponentBits - 1

/-- The fraction field with all bits set. -/
def fractionMask (format : Format) : Nat := 2 ^ format.fractionBits - 1

/-- Whether memory holds the leading significand bit, as in the 80-bit extended format. -/
def storesLeadingBit (format : Format) : Bool :=
  format.exponentBits == 15 && format.precision == 64

/-- The format with these widths, if they leave two bits for the exponent and the significand. -/
def ofWidths? (exponentBits totalBits : Int) : Option Format :=
  if widths : 2 ≤ exponentBits.toNat ∧ exponentBits.toNat + 2 ≤ totalBits.toNat then
    some ⟨exponentBits.toNat, totalBits.toNat, widths.1, widths.2⟩
  else none

/-- The format of 16-bit patterns. -/
def half : Format := { exponentBits := 5, totalBits := 16 }

/-- The format of 32-bit patterns. -/
def single : Format := { exponentBits := 8, totalBits := 32 }

/-- The format of 64-bit patterns. -/
def double : Format := { exponentBits := 11, totalBits := 64 }

/-- The extended format of 80 stored bits, of which the leading significand bit is not in the
pattern. -/
def extended : Format := { exponentBits := 15, totalBits := 79 }

/-- The format of 128-bit patterns. -/
def quadruple : Format := { exponentBits := 15, totalBits := 128 }

theorem precision_add_exponentBits (format : Format) :
    format.precision + format.exponentBits = format.totalBits := by
  have := format.exponentBits_add_two_le
  unfold precision; omega

theorem two_le_precision (format : Format) : 2 ≤ format.precision := by
  have := format.exponentBits_add_two_le
  unfold precision; omega

theorem fractionBits_add_one (format : Format) : format.fractionBits + 1 = format.precision := by
  have := format.two_le_precision
  unfold fractionBits; omega

theorem ofWidths?_eq_none_iff (exponentBits totalBits : Int) :
    ofWidths? exponentBits totalBits = none ↔ exponentBits < 2 ∨ totalBits - exponentBits < 2 := by
  unfold ofWidths?
  split <;> simp <;> omega

end Format

/-- The machine types for floating-point values. -/
inductive Carrier
  | half
  | single
  | double
  | extended
deriving DecidableEq, Repr

namespace Carrier

/-- The format whose values the type stores. -/
def format : Carrier → Format
  | half => Format.half
  | single => Format.single
  | double => Format.double
  | extended => Format.extended

/-- The name of the type, by the number of bits it takes in memory. -/
def name : Carrier → String
  | half => "float16"
  | single => "float32"
  | double => "float64"
  | extended => "float128"

/-- The number of bits the type takes in memory. -/
def storageBits : Carrier → Nat
  | half => 16
  | single => 32
  | double => 64
  | extended => 128

/-- All machine types. -/
def all : List Carrier := [half, single, double, extended]

end Carrier

namespace Format

/-- The machine type that stores values of the format. -/
def carrier? (format : Format) : Option Carrier :=
  Carrier.all.find? fun carrier => carrier.format = format

/-- The number of bits a value takes in memory; without a machine type, the bits it needs. -/
def storageBits (format : Format) : Nat :=
  match format.carrier? with
  | some carrier => carrier.storageBits
  | none => format.totalBits + format.storesLeadingBit.toNat

/-- The name of the machine type, `none` if there is none. -/
def carrierName (format : Format) : String :=
  match format.carrier? with
  | some carrier => carrier.name
  | none => "none"

/-- The name of the format, by its widths and its machine type. -/
def name (format : Format) : String :=
  "float(" ++ toString format.exponentBits ++ "," ++ toString format.totalBits ++ ")/" ++
    format.carrierName

theorem carrier?_format (carrier : Carrier) : carrier.format.carrier? = some carrier := by
  cases carrier <;> decide

theorem format_of_carrier? {format : Format} {carrier : Carrier}
    (stored : format.carrier? = some carrier) : carrier.format = format := by
  simpa using List.find?_some stored

end Format

end LibmAudit
