/-
**Integer roots.**

* `floorRoot degree n`: the largest integer whose power of this degree is at most `n`, by Newton
  steps from above.
-/

import LibmAudit.Binary

namespace LibmAudit

-- Powers are the built-in ones, whatever else is imported.
attribute [local instance (high)] instPowNat

/-- The Newton step towards a root. -/
def rootStep (degree n guess : Nat) : Nat :=
  ((degree - 1) * guess + n / guess ^ (degree - 1)) / degree

/-- Newton steps from a guess that is not below the root, as long as they descend. -/
def descendToRoot (degree n guess : Nat) : Nat :=
  if rootStep degree n guess < guess then descendToRoot degree n (rootStep degree n guess)
  else guess
termination_by guess

/-- The integer part of a root. -/
def floorRoot (degree n : Nat) : Nat :=
  if n = 0 then 0
  else descendToRoot degree n (2 ^ ((bitLength n + degree - 1) / degree))

end LibmAudit
