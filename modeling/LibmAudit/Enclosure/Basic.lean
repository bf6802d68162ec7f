/-
**Enclosures of real numbers.**

A positive real number is computed to any number of digits from enclosures that can be made as
narrow as one likes.

* `Truncation`: the leading digits of a real number, and whether more follow.
* `Enclosure`: two neighbouring multiples of a power of two with the number between them.
* `Enclosure.truncate?`: the leading digits, when both ends agree on them. The number lies strictly
  between the ends, so an upper end with other digits may still be excluded.
* `refine`: asks for narrower enclosures until the ends agree.
-/

import LibmAudit.Binary

namespace LibmAudit

-- Powers are the built-in ones, whatever else is imported.
attribute [local instance (high)] instPowNat

/-- A magnitude from `significand * 2 ^ exponent` on, below the next multiple; with `sticky` it is
not the multiple itself. -/
structure Truncation where
  significand : Nat
  exponent : Int
  sticky : Bool

/-- A positive real number strictly between `low * 2 ^ exponent` and `high * 2 ^ exponent`. -/
structure Enclosure where
  low : Nat
  high : Nat
  exponent : Int

namespace Enclosure

/-- The leading `digits` bits of the lower end. A positive number has one at least. -/
def truncateLow (enclosure : Enclosure) (digits : Nat) : Truncation :=
  let excess := bitLength enclosure.low - digits
  ⟨max 1 (enclosure.low / 2 ^ excess), enclosure.exponent + excess, true⟩

/-- The leading `digits` bits of every number between the ends, if they agree. -/
def truncate? (enclosure : Enclosure) (digits : Nat) : Option Truncation :=
  let excess := bitLength enclosure.low - digits
  if digits ≤ bitLength enclosure.low ∧
      (enclosure.high - 1) / 2 ^ excess = enclosure.low / 2 ^ excess then
    some (enclosure.truncateLow digits)
  else none

/-- The enclosure times a power of two. -/
def scale (enclosure : Enclosure) (power : Int) : Enclosure :=
  { enclosure with exponent := enclosure.exponent + power }

/-- A number above a dyadic one, by less than one part in `2 ^ precision`. -/
def justAbove (significand : Nat) (exponent : Int) (precision : Nat) : Enclosure :=
  ⟨significand * 2 ^ precision, significand * 2 ^ precision + significand, exponent - precision⟩

/-- A number below a dyadic one, by less than one part in `2 ^ precision`. -/
def justBelow (significand : Nat) (exponent : Int) (precision : Nat) : Enclosure :=
  ⟨significand * 2 ^ precision - significand, significand * 2 ^ precision, exponent - precision⟩

end Enclosure

/-- Asks for enclosures of twice the precision until one settles the digits. -/
def search (enclose : Nat → Enclosure) (digits : Nat) : Nat → Nat → Truncation
  | 0, precision => (enclose precision).truncateLow digits
  | attempts + 1, precision =>
    match (enclose precision).truncate? digits with
    | some truncation => truncation
    | none => search enclose digits attempts (2 * precision)

/-- The leading digits of a real number with no finite binary expansion. -/
def refine (enclose : Nat → Enclosure) (digits : Nat) : Truncation :=
  search enclose digits 14 (digits + 16)

end LibmAudit
