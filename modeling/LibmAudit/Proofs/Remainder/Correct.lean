/-
**The machine remainder is the exact one.**

For the formats of machine types, every finite dividend and every finite divisor that is not zero.

* `Format.IsRemquo`: what a remainder and the last bits of a quotient have to be.
* `quotientsMatch_signed`: quotients with one sign and the same last bits agree.
* `Native.remquo_correct`: the machine routines give that remainder and that quotient by steps that
  do not round, and the reference library gives the same in every mode.
-/

import LibmAudit.Native.Library
import LibmAudit.Policy
import LibmAudit.Proofs.Remainder.Native
import LibmAudit.Proofs.Remainder.Reference

namespace LibmAudit

attribute [local instance (high)] instPowNat

/-- The remainder of one value by another, and the last bits of the quotient to nearest even. -/
structure Format.IsRemquo (format : Format) (first second rest : ℕ) (quotient n : ℤ) : Prop where
  nearest : IsNearestEven (format.realOf first / format.realOf second) n
  isFinite : format.isFinite rest = true
  exact : format.realOf rest = format.realOf first - n * format.realOf second
  zeroSign : format.realOf rest = 0 → format.isNegative rest = format.isNegative first
  sign : quotient = 0 ∨
    SignType.sign (quotient : ℝ) = SignType.sign (format.realOf first / format.realOf second)
  small : |quotient| ≤ 8
  lastBits : |quotient| ≡ |n| [ZMOD 8]

/-! ## Quotients -/

/-- Quotients with one sign and the same last bits agree. -/
theorem quotientsMatch_signed (negative : Bool) {expected actual : ℕ}
    (same : expected % 8 = actual % 8) :
    quotientsMatch (signed negative (expected : ℤ)) (signed negative (actual : ℤ)) = true := by
  unfold quotientsMatch quotientBits
  rw [natAbs_signed, natAbs_signed, Bool.and_eq_true, beq_iff_eq]
  refine ⟨same, ?_⟩
  cases negative
  · simp [signed]
    omega
  · rcases Nat.eq_zero_or_pos expected with rfl | positive
    · simp [signed]
    · rcases Nat.eq_zero_or_pos actual with rfl | positive'
      · simp [signed]
      · simp [signed, positive, positive']

/-- The number of the second output of the routine is compared by its last bits and its sign. -/
theorem Routine.integersMatch_remquo (expected actual : ℤ) :
    Routine.remquo.integersMatch 1 expected actual = .ok (quotientsMatch expected actual) := rfl

/-! ## Values with signs -/

/-- The rest of a division of magnitudes is that of the signed values. -/
theorem signed_rest_of_split {total divisor quotient : ℕ} {rest : ℤ}
    (split : (total : ℤ) = rest + quotient * divisor) (negative negative' : Bool) (unit : ℝ) :
    signed negative (rest * unit) = signed negative (total * unit) -
      (signed (negative != negative') (quotient : ℤ) : ℤ) * signed negative' (divisor * unit) := by
  have split : (total : ℝ) = rest + quotient * divisor := by exact_mod_cast split
  rw [split]
  cases negative <;> cases negative' <;>
    simp only [signed, bne_self_eq_false, Bool.false_eq_true, if_false, if_true, Bool.true_bne,
      Bool.false_bne, Bool.not_false] <;> push_cast <;> ring

namespace NearestDivision

variable {total divisor quotient : ℕ} {rest : ℤ} {unit : ℝ}

/-- With a quotient that is not zero the total is not zero. -/
theorem total_pos (division : NearestDivision total divisor quotient rest)
    (positive : 0 < divisor) (some : 0 < quotient) : 0 < total := by
  have split := division.split
  have near := division.near
  have least : (divisor : ℤ) ≤ quotient * divisor := by
    exact_mod_cast Nat.le_mul_of_pos_left divisor some
  omega

/-- A part of the quotient with its sign is zero or has the sign of the ratio. -/
theorem sign_eq (division : NearestDivision total divisor quotient rest) (positive : 0 < divisor)
    (unit_pos : 0 < unit) (negative negative' : Bool) {part : ℕ} (le : part ≤ quotient) :
    signed (negative != negative') (part : ℤ) = 0 ∨
      SignType.sign ((signed (negative != negative') (part : ℤ) : ℤ) : ℝ) =
        SignType.sign (signed negative (total * unit) / signed negative' (divisor * unit)) := by
  rcases Nat.eq_zero_or_pos part with rfl | some
  · left
    cases negative != negative' <;> rfl
  · right
    have size : (0 : ℝ) < divisor * unit := by
      have : (0 : ℝ) < divisor := by exact_mod_cast positive
      positivity
    have whole : (0 : ℝ) < total * unit := by
      have : (0 : ℝ) < total := by
        exact_mod_cast division.total_pos positive (some.trans_le le)
      positivity
    have part_pos : (0 : ℝ) < part := by exact_mod_cast some
    have ratio := div_pos whole size
    cases negative <;> cases negative' <;>
      simp [signed, neg_div, div_neg, sign_pos, sign_neg, ratio, part_pos]

end NearestDivision

/-- What the division of the units makes of the values. -/
theorem Format.IsRemquo.of_division {format : Format} (negative negative' : Bool)
    {dividend divisor pattern whole part : ℕ} {rest : ℤ}
    (finite : dividend < format.infinityOrdinal) (finite' : divisor < format.infinityOrdinal)
    (positive : 0 < divisor) (encodes : format.EncodesRest negative pattern rest)
    (division : NearestDivision (format.unitsAt dividend) (format.unitsAt divisor)
      (8 * whole + part) rest) (small : part ≤ 8) :
    format.IsRemquo (format.signBit negative + dividend) (format.signBit negative' + divisor)
      pattern (signed (negative != negative') (part : ℤ))
      (signed (negative != negative') ((8 * whole + part : ℕ) : ℤ)) := by
  have unit : (0 : ℝ) < 2 ^ format.lowestPlace := by positivity
  have units := format.unitsAt_pos_iff.mpr positive
  have first := format.realOf_signBit_add negative finite
  have second := format.realOf_signBit_add negative' finite'
  rw [format.magnitudeAt_eq_unitsAt] at first second
  have size (magnitude : ℕ) : |signed (negative != negative') (magnitude : ℤ)| = magnitude := by
    rw [Int.abs_eq_natAbs, natAbs_signed]
  constructor
  · rw [first, second]
    exact division.isNearestEven units unit negative negative'
  · exact encodes.isFinite
  · rw [first, second, encodes.realOf]
    exact signed_rest_of_split division.split negative negative' _
  · intro zero
    rw [encodes.realOf, ← abs_eq_zero, abs_signed, abs_eq_zero, mul_eq_zero,
      or_iff_left unit.ne', Int.cast_eq_zero] at zero
    subst zero
    rw [encodes.isNegative,
      format.isNegative_signBit_add _ (finite.trans format.infinityOrdinal_lt)]
  · rw [first, second]
    exact division.sign_eq units unit negative negative' (Nat.le_add_left _ _)
  · rw [size]
    exact_mod_cast small
  · rw [size, size, Int.ModEq]
    omega

/-! ## The machine formats -/

theorem Carrier.three_le_exponentBits (carrier : Carrier) :
    3 ≤ carrier.format.exponentBits := by
  cases carrier <;> decide

/-- The values of machine types are multiprecision numbers. -/
theorem Carrier.ranged (carrier : Carrier) :
    carrier.format.emax + carrier.format.fractionBits < exponentLimit := by
  cases carrier <;> decide

/-- The machine routines give the exact remainder and the last bits of the quotient. No subtraction,
doubling or halving of their reduction rounds. In every mode the reference library gives the same
remainder, and a quotient that agrees. -/
theorem Native.remquo_correct (carrier : Carrier) {first second : ℕ}
    (fits : first < 2 ^ carrier.format.totalBits) (fits' : second < 2 ^ carrier.format.totalBits)
    (finite : carrier.format.isFinite first = true)
    (finite' : carrier.format.isFinite second = true)
    (nonzero : carrier.format.isZero second = false) :
    ∃ (n : ℤ) (rest : ℕ) (quotient : ℤ) (flags : Flags),
      carrier.format.IsRemquo first second rest quotient n ∧
      call .remquo carrier.format [.float first, .float second] =
        .ok ⟨[.float rest, .int quotient], flags⟩ ∧
      call .remainder carrier.format [.float first, .float second] =
        .ok ⟨[.float rest], flags⟩ ∧
      (tracedReduce carrier.format first (magnitude carrier.format second)).reduction =
        reduce carrier.format first (magnitude carrier.format second) ∧
      (tracedReduce carrier.format first (magnitude carrier.format second)).IsExact
        carrier.format ∧
      ∀ mode, ∃ quotient' : ℤ,
        Reference.call .remquo carrier.format mode [.float first, .float second] =
          .ok ⟨[.float rest, .int quotient'], .none⟩ ∧
        Reference.call .remainder carrier.format mode [.float first, .float second] =
          .ok ⟨[.float rest], .none⟩ ∧
        Routine.remquo.integersMatch 1 quotient' quotient = .ok true := by
  have three := carrier.three_le_exponentBits
  have ranged := carrier.ranged
  generalize carrier.format = format at *
  obtain ⟨negative, dividend, inside, -, rfl⟩ := Format.exists_signBit_add fits finite
  obtain ⟨negative', divisor, inside', number, rfl⟩ := Format.exists_signBit_add fits' finite'
  have positive : 0 < divisor := by
    rw [Nat.pos_iff_ne_zero, ← number, Ne, ← format.isZero_iff, nonzero]
    exact Bool.false_ne_true
  obtain ⟨rest, part, units, flags, machine, encodes, division, small, exact⟩ :=
    remquo_division three negative negative' inside inside' positive
  have machine' : call .remquo format [.float (format.signBit negative + dividend),
      .float (format.signBit negative' + divisor)] =
        .ok ⟨[.float rest, .int (signed (negative != negative') part)], flags⟩ := by
    unfold call callBinary
    dsimp only
    rw [machine]
  have machine'' : call .remainder format [.float (format.signBit negative + dividend),
      .float (format.signBit negative' + divisor)] = .ok ⟨[.float rest], flags⟩ := by
    unfold call callBinary
    dsimp only
    rw [machine]
    rfl
  have reference :=
    Reference.remquo_eq ranged negative negative' inside inside' positive division encodes
  refine ⟨_, rest, _, flags, .of_division negative negative' inside inside' positive encodes
    division small, machine', machine'', tracedReduce_reduction _ _ _, ?_,
    fun mode => ⟨_, reference, ?_, ?_⟩⟩
  · rwa [magnitude, number]
  · exact Reference.remainder_eq ranged negative negative' inside inside' positive division
      encodes mode
  · rw [Routine.integersMatch_remquo, quotientsMatch_signed]
    omega

/-- A divisor whose multiples overflow, and a remainder that is exact all the same. -/
theorem Native.remquo_correct_overflow :
    31743 < 2 ^ Carrier.half.format.totalBits ∧ 62690 < 2 ^ Carrier.half.format.totalBits ∧
      Carrier.half.format.isFinite 31743 = true ∧ Carrier.half.format.isFinite 62690 = true ∧
      Carrier.half.format.isZero 62690 = false ∧
      call .remquo Carrier.half.format [.float 31743, .float 62690] =
        .ok ⟨[.float 28000, .int (-3)], { overflow := true }⟩ ∧
      ∃ n, Carrier.half.format.IsRemquo 31743 62690 28000 (-3) n := by
  have fits : 31743 < 2 ^ Carrier.half.format.totalBits := by decide
  have fits' : 62690 < 2 ^ Carrier.half.format.totalBits := by decide
  have finite : Carrier.half.format.isFinite 31743 = true := by decide
  have finite' : Carrier.half.format.isFinite 62690 = true := by decide
  have nonzero : Carrier.half.format.isZero 62690 = false := by decide
  have evaluated : call .remquo Carrier.half.format [.float 31743, .float 62690] =
      .ok ⟨[.float 28000, .int (-3)], { overflow := true }⟩ := by rfl
  obtain ⟨n, rest, quotient, flags, remainder, machine, -⟩ :=
    remquo_correct .half fits fits' finite finite' nonzero
  rw [evaluated] at machine
  simp only [Except.ok.injEq, Response.mk.injEq, List.cons.injEq, SlotValue.float.injEq,
    SlotValue.int.injEq] at machine
  obtain ⟨⟨rfl, rfl, -⟩, -⟩ := machine
  exact ⟨fits, fits', finite, finite', nonzero, evaluated, n, remainder⟩

end LibmAudit
