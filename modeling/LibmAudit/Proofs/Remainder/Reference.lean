/-
**The reference remainder does not round.**

The rest of a division to nearest even is a value of the format, so the reference library finds its
pattern in every mode.

* `Number.remainder_division`: the remainder and the quotient in multiprecision arithmetic.
* `Reference.operation_of_rest`: an operation whose outcome is a rest gives the pattern of the rest.
* `Reference.remquo_eq`, `remainder_eq`: the outputs of the reference library.
-/

import LibmAudit.Proofs.Multiprecision.Reading
import LibmAudit.Proofs.Remainder.Rest

namespace LibmAudit

attribute [local instance (high)] instPowNat

variable {format : Format}

/-! ## Multiprecision arithmetic -/

/-- The remainder, and the last bits of the quotient with its sign. -/
theorem Number.remainder_division (negative negative' : Bool) {dividend divisor quotient : ℕ}
    {rest : ℤ} (finite : dividend < format.infinityOrdinal)
    (finite' : divisor < format.infinityOrdinal) (positive : 0 < divisor)
    (division : NearestDivision (format.unitsAt dividend) (format.unitsAt divisor) quotient rest) :
    ((rest = 0 ∧ (read format (format.signBit negative + dividend : ℕ)).remainder
          (read format (format.signBit negative' + divisor : ℕ)) = .zero negative) ∨
        (rest ≠ 0 ∧ ((read format (format.signBit negative + dividend : ℕ)).remainder
          (read format (format.signBit negative' + divisor : ℕ))).HasValue
            (signed negative (rest * 2 ^ format.lowestPlace)))) ∧
      (read format (format.signBit negative + dividend : ℕ)).quotient
          (read format (format.signBit negative' + divisor : ℕ)) =
        signed (negative != negative') ((quotient % 2 ^ 63 : ℕ) : ℤ) := by
  have units := format.unitsAt_pos_iff.mpr positive
  rw [read_signBit_add negative finite, read_signBit_add negative' finite', if_neg positive.ne']
  rcases Nat.eq_zero_or_pos dividend with rfl | nonzero
  · have none : NearestDivision (format.unitsAt 0) (format.unitsAt divisor) 0 0 := by
      rw [format.unitsAt_zero]
      exact ⟨by simp, by simp, fun _ => Even.zero⟩
    obtain ⟨rfl, rfl⟩ := division.unique none units
    rw [if_pos rfl]
    refine ⟨Or.inl ⟨rfl, rfl⟩, ?_⟩
    cases negative <;> cases negative' <;> rfl
  · obtain ⟨rest', value, division'⟩ :=
      Division.nearest_units format negative negative' dividend positive
    obtain ⟨same, rfl⟩ := division'.unique division units
    rw [if_neg nonzero.ne']
    refine ⟨Division.outcome_eq format negative value, ?_⟩
    unfold Number.quotient Format.dyadicAt
    rw [← same]
    dsimp only
    cases negative <;> cases negative' <;> rfl

/-- A rest becomes a number and then its pattern, in every mode. -/
theorem Outcome.round_rest {outcome : Outcome} {negative : Bool} {rest : ℤ} {pattern : ℕ}
    (ranged : format.emax + format.fractionBits < exponentLimit)
    (encodes : format.EncodesRest negative pattern rest)
    (division : (rest = 0 ∧ outcome = .zero negative) ∨
      (rest ≠ 0 ∧ outcome.HasValue (signed negative (rest * 2 ^ format.lowestPlace)))) :
    ∃ number, outcome.round (format.precision + 2) .towardZero = ⟨number, 0, .none⟩ ∧
      number ≠ .nan ∧ ∀ mode, number.toPattern format mode false (format.precision + 2) =
        .ok ⟨pattern, .none⟩ := by
  obtain ⟨ordinal, finite, bits, same⟩ := encodes
  rcases division with ⟨rfl, rfl⟩ | ⟨nonzero, value⟩
  · obtain rfl := (format.unitsAt_eq_zero_iff).mp same
    refine ⟨.zero negative, rfl, nofun, fun mode => ?_⟩
    rw [bits, decide_eq_false (lt_irrefl 0), Bool.bne_false]
    rfl
  · have positive : 0 < ordinal := by
      rwa [← format.unitsAt_pos_iff, same, Int.natAbs_pos]
    rw [Format.signed_units same] at value
    obtain ⟨number, rounded, sign, magnitude⟩ :=
      round_of_hasValue .towardZero ranged positive finite value
    refine ⟨.finite number, rounded, nofun, fun mode => ?_⟩
    rw [Number.toPattern_of_magnitude mode _ ranged positive finite magnitude, sign, bits]

/-! ## The reference library -/

namespace Reference

/-- An operation whose outcome is a rest gives the pattern of the rest in every mode. -/
theorem operation_of_rest {negative : Bool} {operator : Operation} {patterns : List ℕ} {pattern : ℕ} {rest : ℤ}
    (ranged : format.emax + format.fractionBits < exponentLimit)
    (fits : ∀ pattern ∈ patterns, pattern < 2 ^ format.totalBits)
    (count : patterns.length = operator.arity)
    (numbers : ∀ pattern ∈ patterns, format.isNaN (pattern : ℕ) = false)
    (encodes : format.EncodesRest negative pattern rest)
    (division : (rest = 0 ∧ operator.apply
        (patterns.map fun pattern : ℕ => Number.read format pattern) = .zero negative) ∨
      (rest ≠ 0 ∧ (operator.apply
        (patterns.map fun pattern : ℕ => Number.read format pattern)).HasValue
          (signed negative (rest * 2 ^ format.lowestPlace)))) (mode : Mode) :
    operation operator format mode patterns = .ok (.ofPattern pattern) := by
  obtain ⟨number, rounded, -, back⟩ := Outcome.round_rest ranged encodes division
  rw [operation_of_fits ranged fits count numbers, rounded, Operation.finish_eq_map,
    bne_self_eq_false, back]
  show Except.ok (Response.ofRounded ⟨pattern, Flags.none.union .none⟩) = _
  rw [Flags.none_union]
  rfl

variable (ranged : format.emax + format.fractionBits < exponentLimit) (negative negative' : Bool)
  {dividend divisor quotient pattern : ℕ} {rest : ℤ} (finite : dividend < format.infinityOrdinal)
  (finite' : divisor < format.infinityOrdinal) (positive : 0 < divisor)
  (division : NearestDivision (format.unitsAt dividend) (format.unitsAt divisor) quotient rest)
  (encodes : format.EncodesRest negative pattern rest)

include ranged finite finite' positive division encodes

/-- The remainder with the sign of the dividend, and the last bits of the quotient. -/
theorem remquo_eq :
    remquo format (format.signBit negative + dividend) (format.signBit negative' + divisor) =
      .ok ⟨[.float pattern, .int (signed (negative != negative') ((quotient % 2 ^ 63 : ℕ) : ℤ))],
        .none⟩ := by
  obtain ⟨outcome, bits⟩ :=
    Number.remainder_division negative negative' finite finite' positive division
  obtain ⟨number, rounded, real, back⟩ := Outcome.round_rest ranged encodes outcome
  unfold remquo anyNaN
  simp only [List.any_cons, List.any_nil, format.isNaN_signBit_add _ finite,
    format.isNaN_signBit_add _ finite', Bool.or_self, Bool.false_eq_true, if_false]
  rw [Number.ofPattern_signBit_add ranged _ finite, Number.ofPattern_signBit_add ranged _ finite']
  simp only [bind, Except.bind, rounded, bits]
  cases number with
  | nan => exact absurd rfl real
  | infinity | zero | finite =>
    simp only [back]
    rfl

/-- The remainder as an operation of its own. -/
theorem remainder_eq (mode : Mode) :
    operation .remainder format mode
        [format.signBit negative + dividend, format.signBit negative' + divisor] =
      .ok (.ofPattern pattern) := by
  obtain ⟨outcome, -⟩ :=
    Number.remainder_division negative negative' finite finite' positive division
  refine operation_of_rest ranged ?_ rfl ?_ encodes ?_ mode
  · rw [List.forall_mem_cons, List.forall_mem_singleton]
    exact ⟨format.signBit_add_lt _ (finite.trans format.infinityOrdinal_lt),
      format.signBit_add_lt _ (finite'.trans format.infinityOrdinal_lt)⟩
  · rw [List.forall_mem_cons, List.forall_mem_singleton]
    exact ⟨format.isNaN_signBit_add _ finite, format.isNaN_signBit_add _ finite'⟩
  · exact outcome

end Reference

end LibmAudit
