/-
**Distances in units in the last place.**

* `Distance`: a number of steps, or none that any tolerance accepts.
* `Format.distance`: how many steps in the order of the format two finite patterns are apart. Values
  of opposite sign are unbounded apart, unless one of them is a zero.
-/

import LibmAudit.Fault
import LibmAudit.Format.Rendering

namespace LibmAudit

/-- A distance between values. -/
inductive Distance
  | steps (count : Nat)
  | unbounded
deriving DecidableEq, Repr

/-- Whether a tolerance accepts a distance. -/
def Distance.within (distance : Distance) (tolerance : Int) : Bool :=
  match distance with
  | steps count => (count : Int) ≤ tolerance
  | unbounded => false

namespace Format

/-- The distance between two ordinals. -/
def ordinalDistance (first second : Int) : Distance :=
  if first ≠ 0 ∧ second ≠ 0 ∧ decide (first < 0) ≠ decide (second < 0) then .unbounded
  else .steps (first - second).natAbs

/-- The distance between two finite patterns. -/
def distance (format : Format) (expected actual : Int) : Except Fault Distance :=
  if format.isFinite expected && format.isFinite actual then
    .ok (ordinalDistance (format.toOrdinal expected) (format.toOrdinal actual))
  else .error (.nonfiniteDistance (format.render expected) (format.render actual))

end Format

end LibmAudit
