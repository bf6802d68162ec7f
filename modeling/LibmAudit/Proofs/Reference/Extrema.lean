/-
**The larger and the smaller of two values.**

The ordinals with `-0` moved below `+0` put the values of a format into one row, in which every
pattern but the NaNs has a place of its own. Of two operands the routines take the one farther along
that row, in one direction or the other, and a NaN counts for nothing. So they are the maximum and
the minimum of a chain, and their laws are those of a chain.

* `Format.rank`: the place of a value. `Format.rank_inj`: it determines the pattern.
* `Format.extreme`: the pattern farther along. `Format.weight_extreme`: it has the larger one of two
  weights, which makes it commutative and associative, NaNs included.
* `Format.extreme_absorb`, `extreme_distrib`: the laws of both directions together.
* `Reference.extremum_eq`: the routines give that pattern.
* `Reference.extrema_lattice`: their laws.
-/

import LibmAudit.Proofs.Literal.Range
import LibmAudit.Proofs.Order.Finite
import LibmAudit.Proofs.Reference.Action

namespace LibmAudit

attribute [local instance (high)] instPowNat

namespace Format

/-- The place of a value in the order of the values, `-0` right before `+0`. -/
def rank (format : Format) (pattern : ℕ) : ℤ :=
  if format.isNegative pattern then format.toOrdinal pattern - 1 else format.toOrdinal pattern

/-- The place of a value, counted toward the larger values or toward the smaller ones. -/
def rankToward (format : Format) (larger : Bool) (pattern : ℕ) : ℤ :=
  signed (!larger) (format.rank pattern)

/-- What decides between two patterns: the place toward what is looked for, and nothing for a
NaN. -/
def weight (format : Format) (larger : Bool) (pattern : ℕ) : WithBot ℤ :=
  if format.isNaN pattern then ⊥ else format.rankToward larger pattern

/-- The pattern farther along toward the larger values or the smaller ones. A NaN gives way, and two
of them to the quiet one. -/
def extreme (format : Format) (larger : Bool) (first second : ℕ) : ℕ :=
  if format.isNaN first ∧ format.isNaN second then format.quietNaN false
  else if format.isNaN first then second
  else if format.isNaN second then first
  else if format.rankToward larger second ≤ format.rankToward larger first then first
  else second

variable {format : Format} {larger : Bool} {first second third : ℕ}

/-! ## The place of a value -/

theorem rank_eq (fits : first < 2 ^ format.totalBits) :
    format.rank first = if format.isNegative first then -(format.magnitudeField first : ℤ) - 1
      else format.magnitudeField first := by
  rw [rank, format.toOrdinal_eq fits]
  cases format.isNegative first <;> rfl

/-- A pattern is determined by its place. -/
theorem rank_inj (fits : first < 2 ^ format.totalBits) (fits' : second < 2 ^ format.totalBits)
    (same : format.rank first = format.rank second) : first = second := by
  rw [rank_eq fits, rank_eq fits'] at same
  have equal : format.isNegative first = format.isNegative second ∧
      format.magnitudeField first = format.magnitudeField second := by
    cases sign : format.isNegative first <;> cases sign' : format.isNegative second <;>
      simp only [sign, sign', if_true, Bool.false_eq_true, if_false] at same <;>
      first | exact ⟨rfl, by omega⟩ | omega
  exact format.eq_of_magnitudeField_eq fits fits' equal.1 equal.2

/-- Places are in the order of the ordinals, and where two zeros meet in that of their signs. -/
theorem rank_le_iff (fits : first < 2 ^ format.totalBits) (fits' : second < 2 ^ format.totalBits) :
    format.rank second ≤ format.rank first ↔
      format.toOrdinal second < format.toOrdinal first ∨
        format.toOrdinal second = format.toOrdinal first ∧
          (format.isNegative second = true ∨ format.isNegative first = false) := by
  rw [rank_eq fits, rank_eq fits', format.toOrdinal_eq fits, format.toOrdinal_eq fits']
  cases format.isNegative first <;> cases format.isNegative second <;>
    simp only [signed, if_true, if_false, Bool.false_eq_true, Bool.true_eq_false, or_true, or_false,
      or_self, and_true, and_false] <;>
    omega

theorem rankToward_inj (larger : Bool) (fits : first < 2 ^ format.totalBits)
    (fits' : second < 2 ^ format.totalBits)
    (same : format.rankToward larger first = format.rankToward larger second) : first = second :=
  rank_inj fits fits' (signed_inj.mp same)

theorem rankToward_not (larger : Bool) (pattern : ℕ) :
    format.rankToward (!larger) pattern = -format.rankToward larger pattern := by
  cases larger
  · exact (neg_neg (format.rank pattern)).symm
  · rfl

/-! ## Weights -/

theorem weight_of_isNaN (nan : format.isNaN first = true) : format.weight larger first = ⊥ :=
  if_pos nan

theorem weight_of_number (number : format.isNaN first = false) :
    format.weight larger first = format.rankToward larger first :=
  if_neg (Bool.eq_false_iff.mp number)

/-! ## The heavier of two patterns -/

theorem extreme_of_isNaN (nan : format.isNaN first = true) (nan' : format.isNaN second = true) :
    format.extreme larger first second = format.quietNaN false := if_pos ⟨nan, nan'⟩

theorem extreme_isNaN_left (nan : format.isNaN first = true)
    (number : format.isNaN second = false) : format.extreme larger first second = second := by
  rw [extreme, number, if_neg (by simp), if_pos nan]

theorem extreme_isNaN_right (number : format.isNaN first = false)
    (nan : format.isNaN second = true) : format.extreme larger first second = first := by
  rw [extreme, number, if_neg (by simp), if_neg Bool.false_ne_true, if_pos nan]

section Numbers

variable (larger) (number : format.isNaN first = false)
  (number' : format.isNaN second = false)

include number number'

theorem extreme_of_numbers : format.extreme larger first second =
    if format.rankToward larger second ≤ format.rankToward larger first then first else second := by
  rw [extreme, number, number', if_neg (by simp), if_neg Bool.false_ne_true,
    if_neg Bool.false_ne_true]

/-- Of two values the one farther along is one of the two. -/
theorem extreme_cases : format.extreme larger first second = first ∨
    format.extreme larger first second = second := by
  rw [extreme_of_numbers larger number number']
  exact ite_eq_or_eq ..

theorem isNaN_extreme : format.isNaN (format.extreme larger first second : ℕ) = false := by
  rcases extreme_cases larger number number' with same | same
  · rwa [same]
  · rwa [same]

theorem rankToward_extreme : format.rankToward larger (format.extreme larger first second) =
    max (format.rankToward larger first) (format.rankToward larger second) := by
  rw [extreme_of_numbers larger number number']
  split_ifs with le
  · exact (max_eq_left le).symm
  · exact (max_eq_right (not_le.mp le).le).symm

/-- What is looked for in the other direction is the nearer one. -/
theorem rankToward_extreme_not : format.rankToward larger (format.extreme (!larger) first second) =
    min (format.rankToward larger first) (format.rankToward larger second) := by
  have negated := rankToward_extreme (!larger) number number'
  rw [rankToward_not, rankToward_not, rankToward_not, max_neg_neg] at negated
  exact neg_injective negated

end Numbers

/-- The weight of the heavier pattern is the larger one of the two weights. -/
theorem weight_extreme : format.weight larger (format.extreme larger first second) =
    max (format.weight larger first) (format.weight larger second) := by
  cases nan : format.isNaN first <;> cases nan' : format.isNaN second
  · rw [weight_of_number nan, weight_of_number nan',
      weight_of_number (isNaN_extreme larger nan nan'), rankToward_extreme larger nan nan',
      WithBot.coe_max]
  · rw [extreme_isNaN_right nan nan', weight_of_isNaN nan', max_bot_right]
  · rw [extreme_isNaN_left nan nan', weight_of_isNaN nan, max_bot_left]
  · rw [extreme_of_isNaN nan nan', weight_of_isNaN nan, weight_of_isNaN nan', max_self,
      weight_of_isNaN (format.isNaN_quietNaN false)]

/-- A pattern of the format that is no NaN but the quiet one. -/
structure IsSettled (format : Format) (pattern : ℕ) : Prop where
  fits : pattern < 2 ^ format.totalBits
  quiet : format.isNaN pattern = true → pattern = format.quietNaN false

theorem IsSettled.of_number (fits : first < 2 ^ format.totalBits)
    (number : format.isNaN first = false) : format.IsSettled first :=
  ⟨fits, fun nan => absurd (number.symm.trans nan) Bool.false_ne_true⟩

/-- Such patterns are determined by their weight. -/
theorem IsSettled.eq_of_weight (settled : format.IsSettled first)
    (settled' : format.IsSettled second) (larger : Bool)
    (same : format.weight larger first = format.weight larger second) : first = second := by
  cases nan : format.isNaN first <;> cases nan' : format.isNaN second
  · rw [weight_of_number nan, weight_of_number nan', WithBot.coe_inj] at same
    exact rankToward_inj larger settled.fits settled'.fits same
  · rw [weight_of_number nan, weight_of_isNaN nan'] at same
    exact absurd same WithBot.coe_ne_bot
  · rw [weight_of_isNaN nan, weight_of_number nan'] at same
    exact absurd same.symm WithBot.coe_ne_bot
  · exact (settled.quiet nan).trans (settled'.quiet nan').symm

theorem isSettled_extreme (larger : Bool) (fits : first < 2 ^ format.totalBits)
    (fits' : second < 2 ^ format.totalBits) :
    format.IsSettled (format.extreme larger first second) := by
  cases nan : format.isNaN first <;> cases nan' : format.isNaN second
  · refine .of_number ?_ (isNaN_extreme larger nan nan')
    rcases extreme_cases larger nan nan' with same | same
    · rwa [same]
    · rwa [same]
  · rw [extreme_isNaN_right nan nan']
    exact .of_number fits nan
  · rw [extreme_isNaN_left nan nan']
    exact .of_number fits' nan'
  · rw [extreme_of_isNaN nan nan']
    exact ⟨format.quietNaN_lt false, fun _ => rfl⟩

theorem extreme_comm (fits : first < 2 ^ format.totalBits)
    (fits' : second < 2 ^ format.totalBits) :
    format.extreme larger first second = format.extreme larger second first := by
  refine (isSettled_extreme larger fits fits').eq_of_weight
    (isSettled_extreme larger fits' fits) larger ?_
  rw [weight_extreme, weight_extreme, max_comm]

theorem extreme_assoc (fits : first < 2 ^ format.totalBits)
    (fits' : second < 2 ^ format.totalBits) (fits'' : third < 2 ^ format.totalBits) :
    format.extreme larger (format.extreme larger first second) third =
      format.extreme larger first (format.extreme larger second third) := by
  have left := isSettled_extreme larger fits fits'
  have right := isSettled_extreme larger fits' fits''
  refine (isSettled_extreme larger left.fits fits'').eq_of_weight
    (isSettled_extreme larger fits right.fits) larger ?_
  rw [weight_extreme, weight_extreme, weight_extreme, weight_extreme, max_assoc]

/-! ## Values in their order -/

/-- A pattern of the format that is no NaN. -/
def IsNumber (format : Format) (pattern : ℕ) : Prop :=
  pattern < 2 ^ format.totalBits ∧ format.isNaN pattern = false

section Chain

variable (number : format.IsNumber first) (number' : format.IsNumber second)

include number number'

theorem isNumber_extreme (larger : Bool) : format.IsNumber (format.extreme larger first second) :=
  ⟨(isSettled_extreme larger number.1 number'.1).fits, isNaN_extreme larger number.2 number'.2⟩

theorem extreme_of_rank_le (larger : Bool) (le : format.rank second ≤ format.rank first) :
    format.extreme larger first second = if larger then first else second := by
  rw [extreme_of_numbers larger number.2 number'.2]
  cases larger
  · rw [if_neg Bool.false_ne_true]
    split_ifs with back
    · exact rank_inj number.1 number'.1 (le_antisymm (neg_le_neg_iff.mp back) le)
    · rfl
  · exact if_pos le

theorem extreme_of_le_rank (larger : Bool) (le : format.rank first ≤ format.rank second) :
    format.extreme larger first second = if larger then second else first := by
  rw [extreme_comm number.1 number'.1]
  exact extreme_of_rank_le number' number larger le

theorem valueOf_le_of_rank_le (le : format.rank first ≤ format.rank second) :
    format.valueOf first ≤ format.valueOf second := by
  rw [rank_le_iff number'.1 number.1] at le
  rw [← not_lt, format.valueOf_lt_iff number'.1 number.1 number'.2 number.2]
  omega

/-- Two patterns with one value are equal, or they are the two zeros. -/
theorem eq_or_zeros_of_rank_le (le : format.rank first ≤ format.rank second)
    (same : format.valueOf first = format.valueOf second) :
    first = second ∨ first = format.zero true ∧ second = format.zero false := by
  rw [format.valueOf_eq_iff number.1 number'.1 number.2 number'.2] at same
  by_cases nonzero : format.magnitudeField first = 0
  · have zero := (format.isZero_iff first).mpr nonzero
    have zero' : format.isZero second = true := by
      rwa [← format.toOrdinal_eq_zero_iff number'.1, ← same,
        format.toOrdinal_eq_zero_iff number.1]
    have pattern := eq_zero_of_isZero number.1 zero
    have pattern' := eq_zero_of_isZero number'.1 zero'
    rcases (rank_le_iff number'.1 number.1).mp le with less | ⟨-, sign⟩
    · exact absurd same less.ne
    · cases negative : format.isNegative first <;> cases negative' : format.isNegative second <;>
        rw [negative] at pattern sign <;> rw [negative'] at pattern' sign
      · exact Or.inl (pattern.trans pattern'.symm)
      · simp at sign
      · exact Or.inr ⟨pattern, pattern'⟩
      · exact Or.inl (pattern.trans pattern'.symm)
  · exact Or.inl (format.eq_of_toOrdinal_eq number.1 number'.1 nonzero same)

theorem rank_smallest_le_largest :
    format.rank (format.extreme false first second) ≤
      format.rank (format.extreme true first second) :=
  calc format.rank (format.extreme false first second)
      = min (format.rank first) (format.rank second) :=
        rankToward_extreme_not true number.2 number'.2
    _ ≤ max (format.rank first) (format.rank second) := min_le_max
    _ = format.rank (format.extreme true first second) :=
        (rankToward_extreme true number.2 number'.2).symm

theorem extreme_absorb (larger : Bool) :
    format.extreme larger first (format.extreme (!larger) first second) = first := by
  have other := isNumber_extreme number number' (!larger)
  refine rankToward_inj larger (isNumber_extreme number other larger).1 number.1 ?_
  rw [rankToward_extreme larger number.2 other.2, rankToward_extreme_not larger number.2 number'.2]
  exact max_eq_left (min_le_left _ _)

end Chain

theorem extreme_distrib (larger : Bool) (number : format.IsNumber first)
    (number' : format.IsNumber second) (number'' : format.IsNumber third) :
    format.extreme larger first (format.extreme (!larger) second third) =
      format.extreme (!larger) (format.extreme larger first second)
        (format.extreme larger first third) := by
  have other := isNumber_extreme number' number'' (!larger)
  have left := isNumber_extreme number number' larger
  have right := isNumber_extreme number number'' larger
  refine rankToward_inj larger (isNumber_extreme number other larger).1
    (isNumber_extreme left right (!larger)).1 ?_
  rw [rankToward_extreme larger number.2 other.2,
    rankToward_extreme_not larger number'.2 number''.2,
    rankToward_extreme_not larger left.2 right.2, rankToward_extreme larger number.2 number'.2,
    rankToward_extreme larger number.2 number''.2]
  exact max_min_distrib_left _ _ _

end Format

/-! ## The routines -/

namespace Reference

open Format LibraryKind

variable {format : Format} {first second : ℕ}

theorem extremum_eq (larger : Bool) (fits : first < 2 ^ format.totalBits)
    (fits' : second < 2 ^ format.totalBits) :
    extremum larger format first second = .ofPattern (format.extreme larger first second) := by
  unfold extremum
  dsimp only
  cases nan : format.isNaN first <;> cases nan' : format.isNaN second
  · have number : format.IsNumber first := ⟨fits, nan⟩
    have number' : format.IsNumber second := ⟨fits', nan'⟩
    rw [if_neg (by simp), if_neg Bool.false_ne_true, if_neg Bool.false_ne_true]
    congr 1
    rcases lt_trichotomy (format.toOrdinal second) (format.toOrdinal first) with less | same | more
    · have le := (rank_le_iff fits fits').mpr (Or.inl less)
      rw [extreme_of_rank_le number number' larger le, if_neg less.ne', decide_eq_true less]
      cases larger <;> rfl
    · cases sign : format.isNegative first
      · have le := (rank_le_iff fits fits').mpr (Or.inr ⟨same, Or.inr sign⟩)
        rw [extreme_of_rank_le number number' larger le, if_pos same.symm]
        cases larger <;> rfl
      · have le := (rank_le_iff fits' fits).mpr (Or.inr ⟨same.symm, Or.inl sign⟩)
        rw [extreme_of_le_rank number number' larger le, if_pos same.symm]
        cases larger <;> rfl
    · have le := (rank_le_iff fits' fits).mpr (Or.inl more)
      rw [extreme_of_le_rank number number' larger le, if_neg more.ne,
        decide_eq_false more.le.not_gt]
      cases larger <;> rfl
  · rw [if_neg (by simp), if_neg Bool.false_ne_true, if_pos rfl, extreme_isNaN_right nan nan']
  · rw [if_neg (by simp), if_pos rfl, extreme_isNaN_left nan nan']
  · rw [if_pos ⟨rfl, rfl⟩, extreme_of_isNaN nan nan']
    rfl

/-- Of two zeros with different signs the positive one is larger, and a NaN gives way. -/
example : half.extreme true 0x8000 0 = 0 ∧ half.extreme false 0 0x8000 = 0x8000 ∧
    half.extreme true 0x7c01 0xfc00 = 0xfc00 := by decide

/-- A routine that gives one of two operands and raises nothing, in any order and any grouping of
several. A NaN gives way to the other operand, and to the quiet NaN if that is one as well. -/
structure PicksOne (format : Format) (routine : Routine) (pick : ℕ → ℕ → ℕ) : Prop where
  called : ∀ mode, ∀ first < 2 ^ format.totalBits, ∀ second < 2 ^ format.totalBits,
    reference.call routine format mode [.float first, .float second] =
      .ok ⟨[.float (pick first second)], .none⟩
  performed : ∀ stack, ∀ first < 2 ^ format.totalBits, ∀ second < 2 ^ format.totalBits,
    (reference.perform routine format [.float first, .float second]).on stack =
      (.ok [.float (pick first second)], stack)
  fits : ∀ first < 2 ^ format.totalBits, ∀ second < 2 ^ format.totalBits,
    pick first second < 2 ^ format.totalBits
  comm : ∀ first < 2 ^ format.totalBits, ∀ second < 2 ^ format.totalBits,
    pick first second = pick second first
  assoc : ∀ first < 2 ^ format.totalBits, ∀ second < 2 ^ format.totalBits,
    ∀ third < 2 ^ format.totalBits,
      pick (pick first second) third = pick first (pick second third)
  ignoresNaN : ∀ nan number, format.isNaN (nan : ℕ) = true → format.isNaN (number : ℕ) = false →
    pick nan number = number ∧ pick number nan = number
  quietNaN : ∀ first second, format.isNaN (first : ℕ) = true → format.isNaN (second : ℕ) = true →
    pick first second = format.quietNaN false

/-- Two functions of two values that give both of them in their order, `-0` below `+0`, and obey the
laws of a distributive lattice. -/
structure IsLattice (format : Format) (largest smallest : ℕ → ℕ → ℕ) : Prop where
  rearranges : ∀ first second, format.IsNumber first → format.IsNumber second →
    smallest first second = first ∧ largest first second = second ∨
      smallest first second = second ∧ largest first second = first
  ordered : ∀ first second, format.IsNumber first → format.IsNumber second →
    format.valueOf (smallest first second) ≤ format.valueOf (largest first second)
  zeros : ∀ first second, format.IsNumber first → format.IsNumber second →
    format.valueOf (smallest first second) = format.valueOf (largest first second) →
      smallest first second = largest first second ∨
        smallest first second = format.zero true ∧ largest first second = format.zero false
  absorbs : ∀ first second, format.IsNumber first → format.IsNumber second →
    largest first (smallest first second) = first ∧ smallest first (largest first second) = first
  distributes : ∀ first second third, format.IsNumber first → format.IsNumber second →
    format.IsNumber third →
      largest first (smallest second third) =
        smallest (largest first second) (largest first third) ∧
      smallest first (largest second third) =
        largest (smallest first second) (smallest first third)

/-- A routine that gives the extremum of its operands picks the heavier one. -/
theorem picksOne_extreme {routine : Routine} (larger : Bool)
    (calls : ∀ mode first second, reference.call routine format mode [.float first, .float second] =
      .ok (extremum larger format first second))
    (performs : ∀ stack first second,
      (reference.perform routine format [.float first, .float second]).on stack =
        (deliver (extremum larger format first second)).on stack) :
    PicksOne format routine (format.extreme larger) where
  called mode first fits second fits' := by
    rw [calls, extremum_eq larger fits fits']
    rfl
  performed stack first fits second fits' := by
    rw [performs, on_deliver, extremum_eq larger fits fits']
    exact congrArg (Prod.mk _) stack.raise_none
  fits first fits second fits' := (isSettled_extreme larger fits fits').fits
  comm first fits second fits' := extreme_comm fits fits'
  assoc first fits second fits' third fits'' := extreme_assoc fits fits' fits''
  ignoresNaN nan number isNaN isNumber :=
    ⟨extreme_isNaN_left isNaN isNumber, extreme_isNaN_right isNumber isNaN⟩
  quietNaN first second nan nan' := extreme_of_isNaN nan nan'

theorem isLattice_extreme (format : Format) :
    IsLattice format (format.extreme true) (format.extreme false) where
  rearranges first second number number' := by
    rcases le_total (format.rank first) (format.rank second) with le | le
    · exact Or.inl ⟨extreme_of_le_rank number number' false le,
        extreme_of_le_rank number number' true le⟩
    · exact Or.inr ⟨extreme_of_rank_le number number' false le,
        extreme_of_rank_le number number' true le⟩
  ordered first second number number' :=
    valueOf_le_of_rank_le (isNumber_extreme number number' false)
      (isNumber_extreme number number' true) (rank_smallest_le_largest number number')
  zeros first second number number' :=
    eq_or_zeros_of_rank_le (isNumber_extreme number number' false)
      (isNumber_extreme number number' true) (rank_smallest_le_largest number number')
  absorbs first second number number' :=
    ⟨extreme_absorb number number' true, extreme_absorb number number' false⟩
  distributes first second third number number' number'' :=
    ⟨extreme_distrib true number number' number'', extreme_distrib false number number' number''⟩

/-- **The larger and the smaller of two values are the operations of a lattice.** In every mode both
routines give one of their operands and raise nothing. They are commutative and associative on all
patterns, and a NaN gives way to the other operand. Two values come back in their order, `-0` below
`+0`, and on values both operations absorb each other and distribute over each other. -/
theorem extrema_lattice (format : Format) : ∃ largest smallest : ℕ → ℕ → ℕ,
    PicksOne format .fmax largest ∧ PicksOne format .fmin smallest ∧
      IsLattice format largest smallest :=
  ⟨format.extreme true, format.extreme false,
    picksOne_extreme true (fun _ _ _ => rfl) (fun _ _ _ => rfl),
    picksOne_extreme false (fun _ _ _ => rfl) (fun _ _ _ => rfl), isLattice_extreme format⟩

end Reference

end LibmAudit
