/-
**Readings of a finite pattern.**

Infinities and NaNs have no exponent and no significand. Each reading refuses them with a fault of
its own.

* `Format.finiteExponent`, `finiteSignificand`, `finitePlace`: the exponent, the significand and the
  exponent of the last place.
* `Format.finiteParts`: the signed significand with the exponent of its last place.
-/

import LibmAudit.Fault
import LibmAudit.Format.Pattern

namespace LibmAudit.Format

/-- A reading that a pattern has, or the fault that it has none. -/
def reading {α : Type} (value : Option α) (fault : Fault) : Except Fault α :=
  match value with
  | some value => .ok value
  | none => .error fault

/-- The exponent of a finite value. -/
def finiteExponent (format : Format) (pattern : Int) : Except Fault Int :=
  reading (format.exponentOf? pattern) (.noExponent pattern)

/-- The significand of a finite value, its leading bit included. -/
def finiteSignificand (format : Format) (pattern : Int) : Except Fault Nat :=
  reading (format.significandOf? pattern) (.noSignificand pattern)

/-- The exponent of the distance from a finite value to the next one away from zero. It is refused
with the exponent. -/
def finitePlace (format : Format) (pattern : Int) : Except Fault Int :=
  reading (format.placeOf? pattern) (.noExponent pattern)

/-- A finite value as a signed significand and an exponent. -/
def finiteParts (format : Format) (pattern : Int) : Except Fault (Int × Int) :=
  reading (format.scaled? pattern) (.nonfinitePattern pattern)

end LibmAudit.Format
