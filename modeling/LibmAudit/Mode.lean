/-
**Rounding modes.**

* `Mode`: the six directions in which an inexact result may go.
* `Mode.roundsAway`: whether a magnitude cut to an integer `kept` goes up to `kept + 1`.
* `Mode.overflowsToInfinity`: what becomes of a result beyond the largest finite value.
-/

namespace LibmAudit

/-- The direction in which a result that is not representable is rounded. -/
inductive Mode
  | nearestEven
  | nearestAway
  | up
  | down
  | towardZero
  | awayFromZero
deriving DecidableEq, Repr

namespace Mode

/-- All modes, in the order of their codes. -/
def all : List Mode := [nearestEven, nearestAway, up, down, towardZero, awayFromZero]

/-- The mode with a code from 0 to 5. -/
def ofCode? (code : Int) : Option Mode :=
  if code < 0 then none else all[code.toNat]?

/-- The three-letter name. -/
def name : Mode → String
  | nearestEven => "RNE"
  | nearestAway => "RNA"
  | up => "RTP"
  | down => "RTN"
  | towardZero => "RTZ"
  | awayFromZero => "RAZ"

/-- Whether an inexact magnitude goes up. It is `kept` and a part of `remainder` out of
`2 * half`, and with `sticky` a little more. -/
def roundsAway (mode : Mode) (negative : Bool) (kept remainder half : Int) (sticky : Bool) : Bool :=
  match mode with
  | nearestEven => half < remainder || (remainder == half && (sticky || kept % 2 == 1))
  | nearestAway => half ≤ remainder
  | up => !negative
  | down => negative
  | towardZero => false
  | awayFromZero => true

/-- Whether a result beyond the largest finite value becomes infinite. -/
def overflowsToInfinity (mode : Mode) (negative : Bool) : Bool :=
  match mode with
  | nearestEven | nearestAway | awayFromZero => true
  | up => !negative
  | down => negative
  | towardZero => false

theorem ofCode?_eq_none_iff (code : Int) : ofCode? code = none ↔ code < 0 ∨ 6 ≤ code := by
  unfold ofCode?
  split
  · simp [*]
  · simp only [List.getElem?_eq_none_iff, all, List.length_cons, List.length_nil]; omega

end Mode

end LibmAudit
