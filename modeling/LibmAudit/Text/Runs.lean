/-
**Sets of characters given by run lengths.**

A list of lengths describes a set of code points: the first length counts code points outside it,
the next counts code points inside it, and so on in turn.

* `memRuns`: whether a code point is in the set.
-/

namespace LibmAudit.Text

/-- Membership in the set given by run lengths; `inside` tells which kind the first run is. -/
def memRunsFrom (inside : Bool) : List Nat → Nat → Bool
  | [], _ => false
  | length :: rest, point =>
    if point < length then inside else memRunsFrom (!inside) rest (point - length)

/-- Membership in the set whose first run lies outside it. -/
def memRuns (runs : List Nat) (point : Nat) : Bool :=
  memRunsFrom false runs point

end LibmAudit.Text
