/-
**Rows for particular formats.**

The 32-bit and the 64-bit format have rows of their own, with correctly rounded results.

* `Landmarks`: numbers such as π in the digits of a format.
* `roundedRows`: the rows that both formats have, each with its own digits.
* `particularRows`: the rows of a routine for a format.
-/

import LibmAudit.Suite.Rows.General

namespace LibmAudit.Suite

/-- Well-known numbers, correctly rounded to a format and written in hexadecimal. -/
structure Landmarks where
  pi : String
  halfPi : String
  quarterPi : String
  e : String
  logTwo : String
  rootTwo : String

/-- The numbers in the 64-bit format. -/
def Landmarks.double : Landmarks where
  pi := "0x1.921fb54442d18p+1"
  halfPi := "0x1.921fb54442d18p+0"
  quarterPi := "0x1.921fb54442d18p-1"
  e := "0x1.5bf0a8b145769p+1"
  logTwo := "0x1.62e42fefa39efp-1"
  rootTwo := "0x1.6a09e667f3bcdp+0"

/-- The numbers in the 32-bit format. -/
def Landmarks.single : Landmarks where
  pi := "0x1.921fb6p+1"
  halfPi := "0x1.921fb6p+0"
  quarterPi := "0x1.921fb6p-1"
  e := "0x1.5bf0a8p+1"
  logTwo := "0x1.62e430p-1"
  rootTwo := "0x1.6a09e6p+0"

/-- The rows whose results are well-known numbers. -/
def roundedRows (digits : Landmarks) : Routine → List Row
  | .acos => [texts [digits.halfPi, "0"], texts [digits.pi, "-1"]]
  | .asin => [texts [digits.halfPi, "1"]]
  | .atan => [
    texts [digits.halfPi, "inf"], texts ["-" ++ digits.halfPi, "-inf"],
    texts [digits.quarterPi, "1"]]
  | .atan2 => [
    texts [digits.pi, "0", "-1"], texts ["-" ++ digits.pi, "-0", "-1"],
    texts [digits.halfPi, "1", "0"], texts [digits.quarterPi, "1", "1"]]
  | .exp => [texts [digits.e, "1"]]
  | .exp2 => [texts [digits.rootTwo, "0.5"]]
  | .log => [texts [digits.logTwo, "2"]]
  | .log1p => [texts [digits.logTwo, "1"]]
  | .pow => [texts [digits.rootTwo, "2", "0.5"]]
  | .sqrt => [texts [digits.rootTwo, "2"]]
  | .hypot => [texts [digits.rootTwo, "1", "1"]]
  | _ => []

/-- The rows of the 64-bit format. -/
def doubleRows : Routine → List Row
  | .sin => [texts ["1", Landmarks.double.halfPi]]
  | .cos => [texts ["-1", Landmarks.double.pi]]
  | .tan => [texts ["0x1.fffffffffffffp-1", Landmarks.double.quarterPi]]
  | .round => [texts ["0", "0x1.fffffffffffffp-2"]]
  | .nextafter => [
    texts ["0x1.0000000000001p+0", "1", "2"], texts ["0x1.fffffffffffffp-1", "1", "0"],
    texts ["0x0.0000000000001p-1022", "0", "1"], texts ["-0x0.0000000000001p-1022", "-0", "-1"]]
  | .fma => [texts ["-0x1p-104", "0x1.0000000000001p+0", "0x1.ffffffffffffep-1", "-0x1p+0"]]
  | routine => roundedRows .double routine

/-- The rows of the 32-bit format. -/
def singleRows : Routine → List Row
  | .round => [texts ["0", "0x1.fffffep-2"]]
  | .nextafter => [
    texts ["0x1.000002p+0", "1", "2"], texts ["0x1.fffffep-1", "1", "0"],
    texts ["0x1p-149", "0", "1"], texts ["-0x1p-149", "-0", "-1"]]
  | .fma => [texts ["-0x1p-46", "0x1.000002p+0", "0x1.fffffcp-1", "-0x1p+0"]]
  | routine => roundedRows .single routine

/-- The rows of a routine for a format. -/
def particularRows (format : Format) (routine : Routine) : List Row :=
  if format = Format.double then doubleRows routine
  else if format = Format.single then singleRows routine
  else []

end LibmAudit.Suite
