/-
**Results that are cut toward zero.**

Operations on patterns cut their multiprecision result toward zero and round it once more, with the
error of the cut as a sticky bit.

* `refine_eq`: the digits that are settled in the end are those of an enclosure with a bounded
  precision.
* `Outcome.roundTruncation_towardZero`: what is left of leading digits.
* `Evaluation.MarksErrors`: a result that is marked inexact only if it is a number with an error.
  `Outcome.round_marksErrors`: cut results are so.
* `Outcome.round_enclosed`: a number that is known by its enclosures is cut with an error.
* `Outcome.Settled`: the outcomes of exact arithmetic above a place. `Outcome.Settled.round_zero`:
  what of them is cut to zero is a zero in every mode.
* `Number.fma_settled`: sums and products of numbers above a place are such outcomes.
* `Number.read_from`: the numbers of patterns are above the lowest place.
-/

import LibmAudit.Multiprecision.Pattern
import LibmAudit.Proofs.Fallible
import LibmAudit.Proofs.Pattern

namespace LibmAudit

attribute [local instance (high)] instPowNat

/-! ## Leading digits -/

namespace Truncation

/-- The digits of a truncation that a precision keeps. -/
def cutTo (precision : ℕ) (negative : Bool) (truncation : Truncation) : Dyadic :=
  let excess := bitLength truncation.significand - precision
  ⟨negative, truncation.significand / 2 ^ excess, truncation.exponent + excess⟩

/-- Whether the other digits are something. -/
def isCut (precision : ℕ) (truncation : Truncation) : Bool :=
  truncation.significand % 2 ^ (bitLength truncation.significand - precision) != 0 ||
    truncation.sticky

theorem exponent_le_top_cutTo (precision : ℕ) (negative : Bool) (truncation : Truncation) :
    truncation.exponent ≤ (truncation.cutTo precision negative).top := by
  unfold cutTo Dyadic.top
  dsimp only
  omega

end Truncation

/-- A result that is marked inexact only if it is a number with an error. Which number it is, and
to which side of it the error is, is left open. -/
def Evaluation.MarksErrors (result : Evaluation) : Prop :=
  result.flags.inexact = true → result.ternary ≠ 0 ∧ ∃ value, result.number = .finite value

/-! ## Settled digits -/

/-- The search for enclosures that settle the digits ends with the digits of one of them. -/
theorem search_eq (enclose : ℕ → Enclosure) (digits attempts precision : ℕ) :
    ∃ further ≤ 2 ^ attempts * precision,
      search enclose digits attempts precision = (enclose further).truncateLow digits := by
  induction attempts generalizing precision with
  | zero => exact ⟨precision, by simp, rfl⟩
  | succ attempts induction =>
    unfold search Enclosure.truncate?
    dsimp only
    split_ifs
    · exact ⟨precision, Nat.le_mul_of_pos_left _ (Nat.two_pow_pos _), rfl⟩
    · obtain ⟨further, bound, same⟩ := induction (2 * precision)
      exact ⟨further, by rwa [pow_succ, mul_assoc], same⟩

theorem refine_eq (enclose : ℕ → Enclosure) (digits : ℕ) :
    ∃ further ≤ 2 ^ 14 * (digits + 16), refine enclose digits =
      (enclose further).truncateLow digits :=
  search_eq enclose digits 14 (digits + 16)

theorem refine_sticky (enclose : ℕ → Enclosure) (digits : ℕ) :
    (refine enclose digits).sticky = true := by
  obtain ⟨further, -, same⟩ := refine_eq enclose digits
  rw [same]
  rfl

/-! ## Rounding toward zero -/

namespace Outcome

variable {precision : ℕ}

theorem outward_ne_zero (negative : Bool) : outward negative ≠ 0 := by
  cases negative <;> decide

/-- Toward zero the digits are cut, a number beyond the exponent range becomes the greatest one, and
a number below it becomes zero. -/
theorem roundTruncation_towardZero (negative : Bool) (truncation : Truncation) :
    roundTruncation precision .towardZero negative truncation =
      if exponentLimit < (truncation.cutTo precision negative).top then
        ⟨greatestMagnitude precision negative, -outward negative,
          { overflow := true, inexact := true }⟩
      else if (truncation.cutTo precision negative).top < -exponentLimit then
        ⟨.zero negative, -outward negative, .none⟩
      else
        ⟨.finite (truncation.cutTo precision negative),
          if truncation.isCut precision then -outward negative else 0, .none⟩ := by
  have inward (kept remainder half : ℤ) (sticky : Bool) :
      (roundingOf .towardZero).roundsAway negative kept remainder half sticky = false := rfl
  unfold roundTruncation Truncation.cutTo Truncation.isCut
  simp only [inward, Bool.and_false, Bool.false_eq_true, if_false]
  rfl

/-- A cut result that is marked inexact is beyond the exponent range. -/
theorem round_marksErrors (precision : ℕ) (outcome : Outcome) :
    (outcome.round precision .towardZero).MarksErrors := by
  intro inexact
  cases outcome with
  | nan | infinity | zero | cancelled | minute => exact absurd inexact Bool.false_ne_true
  | vast negative => exact ⟨neg_ne_zero.mpr (outward_ne_zero negative), _, rfl⟩
  | magnitude negative truncate =>
    rw [round, roundTruncation_towardZero] at inexact ⊢
    split_ifs at inexact ⊢
    · exact ⟨neg_ne_zero.mpr (outward_ne_zero negative), _, rfl⟩
    all_goals exact absurd inexact Bool.false_ne_true

/-- A number that is known by its enclosures is cut with an error, to a number or to zero. -/
theorem round_enclosed (negative : Bool) (enclose : ℕ → Enclosure) :
    ((enclosed negative enclose).round precision .towardZero).ternary ≠ 0 ∧
      ((∃ sign, ((enclosed negative enclose).round precision .towardZero).number = .zero sign) ∨
        ∃ value, ((enclosed negative enclose).round precision .towardZero).number =
          .finite value) := by
  have cut : (refine enclose (precision + 2)).isCut precision = true := by
    rw [Truncation.isCut, refine_sticky, Bool.or_true]
  have error := neg_ne_zero.mpr (outward_ne_zero negative)
  rw [enclosed, round, roundTruncation_towardZero, if_pos cut]
  split_ifs
  · exact ⟨error, Or.inr ⟨_, rfl⟩⟩
  · exact ⟨error, Or.inl ⟨_, rfl⟩⟩
  · exact ⟨error, Or.inr ⟨_, rfl⟩⟩

/-! ## Exact outcomes -/

/-- The outcomes of exact arithmetic on numbers that are multiples of `2 ^ place`. -/
inductive Settled (place : ℤ) : Outcome → Prop
  | nan : Settled place .nan
  | infinity (negative pole : Bool) : Settled place (.infinity negative pole)
  | zero (negative : Bool) : Settled place (.zero negative)
  | cancelled : Settled place .cancelled
  | exact (value : Dyadic) (above : place ≤ value.exponent) : Settled place (.exact value)

/-- What is cut to zero is a zero in every mode: numbers above the end of the exponent range are
not. -/
theorem Settled.round_zero {place : ℤ} {outcome : Outcome} (settled : outcome.Settled place)
    (inRange : -exponentLimit ≤ place) {negative : Bool}
    (zero : (outcome.round precision .towardZero).number = .zero negative) (mode : Mode) :
    ∃ sign, outcome.round precision mode = { number := .zero sign } := by
  cases settled with
  | nan | infinity => exact absurd zero nofun
  | zero sign => exact ⟨sign, rfl⟩
  | cancelled => exact ⟨decide (mode = .down), rfl⟩
  | exact value above =>
    have top : value.exponent ≤ _ := Truncation.exponent_le_top_cutTo precision value.negative
      (Truncation.exact value.significand value.exponent)
    rw [Outcome.exact, round, roundTruncation_towardZero] at zero
    split_ifs at zero with beyond below
    · exact absurd zero nofun
    · omega

end Outcome

/-! ## Arithmetic above a place -/

/-- The exponents of finite values are those of the lowest place and above. -/
theorem Format.lowestPlace_le_of_scaled? (format : Format) {pattern significand exponent : ℤ}
    (scaled : format.scaled? pattern = some (significand, exponent)) :
    format.lowestPlace ≤ exponent := by
  unfold scaled? at scaled
  dsimp only at scaled
  by_cases lowest : format.exponentField pattern = 0
  · rw [if_pos lowest] at scaled
    exact (Prod.mk.inj (Option.some.inj scaled)).2.le
  · rw [if_neg lowest] at scaled
    split at scaled
    · rw [← (Prod.mk.inj (Option.some.inj scaled)).2]
      unfold lowestPlace emin bias
      omega
    · exact absurd scaled nofun

namespace Number

/-- A finite number that is given as a multiple of `2 ^ place`. -/
def From (place : ℤ) (number : Number) : Prop :=
  ∀ value, number = .finite value → place ≤ value.exponent

theorem product_from {place : ℤ} {first second : Number} (left : first.From place)
    (right : second.From place) : (first.product second).From (place + place) := by
  intro value same
  cases first <;> cases second <;>
    simp only [product, reduceCtorEq, Number.finite.injEq] at same
  rw [← same]
  exact add_le_add (left _ rfl) (right _ rfl)

theorem add_settled {place : ℤ} {first second : Number} (left : first.From place)
    (right : second.From place) : (first.add second).Settled place := by
  cases first with
  | nan => exact .nan
  | infinity negative =>
    cases second with
    | nan => exact .nan
    | infinity other =>
      unfold add
      dsimp only
      split
      · exact .infinity _ _
      · exact .nan
    | zero | finite => exact .infinity _ _
  | zero negative =>
    cases second with
    | nan => exact .nan
    | infinity => exact .infinity _ _
    | zero other =>
      unfold add
      dsimp only
      split
      · exact .zero _
      · exact .cancelled
    | finite value => exact .exact value (right value rfl)
  | finite value =>
    cases second with
    | nan => exact .nan
    | infinity => exact .infinity _ _
    | zero => exact .exact value (left value rfl)
    | finite other =>
      change (Outcome.ofMultiple _ _ _).Settled place
      unfold Outcome.ofMultiple
      split
      · exact .cancelled
      · exact .exact _ (le_min (left value rfl) (right other rfl))

/-- The product of two numbers plus a third one. -/
theorem fma_settled {place : ℤ} (nonpos : place ≤ 0) {first second third : Number}
    (left : first.From place) (right : second.From place) (last : third.From place) :
    (first.fma second third).Settled (place + place) :=
  add_settled (product_from left right) fun value same => (by omega : place + place ≤ place).trans
    (last value same)

/-- The number of a pattern is above the lowest place. -/
theorem read_from (format : Format) (pattern : ℤ) :
    (read format pattern).From format.lowestPlace := by
  intro value same
  unfold read at same
  dsimp only at same
  split at same
  · exact absurd same nofun
  · split at same
    · exact absurd same nofun
    · next scaled =>
      split at same
      · exact absurd same nofun
      · rw [← Number.finite.inj same]
        exact format.lowestPlace_le_of_scaled? scaled

theorem ofPattern_eq_ok {format : Format} {pattern : ℤ} {number : Number}
    (given : ofPattern format pattern = .ok number) : number = read format pattern := by
  unfold ofPattern at given
  split at given
  · next same =>
    split at given
    · rw [← Except.ok.inj given, same]
    · exact absurd given nofun
  · exact (Except.ok.inj given).symm

end Number

theorem numbersOf_eq_ok {format : Format} {patterns : List ℕ} {numbers : List Number}
    (given : numbersOf format patterns = .ok numbers) :
    numbers = patterns.map fun pattern : ℕ => Number.read format pattern := by
  induction patterns generalizing numbers with
  | nil => exact (Except.ok.inj given).symm
  | cons pattern rest ih =>
    obtain ⟨number, first, next⟩ := bind_eq_ok_iff.mp given
    obtain ⟨others, last, joined⟩ := bind_eq_ok_iff.mp next
    rw [← Except.ok.inj joined, Number.ofPattern_eq_ok first, ih last, List.map_cons]

end LibmAudit
