/-
**Constants.**

* `Bracket.pi`, `Bracket.ln2`: by sums of inverse tangents and inverse hyperbolic tangents of
  reciprocals of integers.
* `tangentNumbers`: the integers that Bernoulli numbers are made of.
-/

import LibmAudit.Enclosure.Bracket

namespace LibmAudit

-- Powers are the built-in ones, whatever else is imported.
attribute [local instance (high)] instPowNat

/-- Sums `term / index` over odd indices, the term divided by `square` each time; with `alternating`
the signs alternate. Returns the sum and the number of terms. -/
def reciprocalSeries (alternating : Bool) (square : Nat) :
    Nat → Nat → Nat → Bool → Int → Nat → Int × Nat
  | 0, _, _, _, sum, count => (sum, count)
  | fuel + 1, term, index, negative, sum, count =>
    if term = 0 then (sum, count)
    else
      let part : Int := term / index
      reciprocalSeries alternating square fuel (term / square) (index + 2)
        (alternating && !negative) (if negative then sum - part else sum + part) (count + 1)

namespace Bracket

/-- The inverse tangent of `1 / n`, or the inverse hyperbolic one, for `n` at least 2. Each term is
off by less than two units, and so are all that are left out. -/
def inverseTangent (hyperbolic : Bool) (n scale : Nat) : Bracket :=
  let (sum, count) :=
    reciprocalSeries (!hyperbolic) (n * n) (scale + 2) (2 ^ scale / n) 1 false 0 0
  widen (2 * count + 2) ⟨sum, sum⟩

/-- The ratio of a circle's circumference to its diameter. -/
def pi (scale : Nat) : Bracket :=
  let fine := scale + 16 + bitLength scale
  rescale fine scale
    (sub ((inverseTangent false 5 fine).timesInt 16) ((inverseTangent false 239 fine).timesInt 4))

/-- The natural logarithm of 2. -/
def ln2 (scale : Nat) : Bracket :=
  let fine := scale + 16 + bitLength scale
  rescale fine scale
    (((inverseTangent true 26 fine).timesInt 18).add
      (((inverseTangent true 4801 fine).timesInt (-2)).add
        ((inverseTangent true 8749 fine).timesInt 8)))

end Bracket

/-! ## Tangent numbers -/

/-- One pass over a row: each entry after the first becomes a combination of its left neighbour,
already replaced, and itself. -/
def tangentPass (row : Nat) : Nat → Nat → List Nat → List Nat
  | _, _, [] => []
  | column, left, entry :: rest =>
    let replaced := (column - row) * left + (column - row + 2) * entry
    replaced :: tangentPass row (column + 1) replaced rest

/-- The passes from one row on; each settles the head of what is left. -/
def tangentRows : Nat → Nat → List Nat → List Nat
  | 0, _, entries => entries
  | _ + 1, _, [] => []
  | fuel + 1, row, head :: rest =>
    let passed := tangentPass row row 0 (head :: rest)
    passed.headD 0 :: tangentRows fuel (row + 1) (passed.drop 1)

/-- The factorials `0!`, `1!` and so on. -/
def factorials : Nat → Nat → Nat → List Nat
  | 0, _, _ => []
  | count + 1, index, value => value :: factorials count (index + 1) (value * (index + 1))

/-- The first tangent numbers 1, 2, 16, 272 and so on. -/
def tangentNumbers (count : Nat) : List Nat :=
  match factorials count 0 1 with
  | [] => []
  | first :: rest => first :: tangentRows count 2 rest

end LibmAudit
