/-
**What the float check accepts.**

The check goes through the classes of two patterns and measures a distance if they leave the verdict
open. What it accepts is said here by the patterns and the values of the format.

* `Format.Passes`: two NaNs, two infinities of one sign, zeros, a flushed subnormal value, or so few
  values between two finite ones that the tolerance covers them.
* `Format.passes_iff`: this is what the comparison of the classes and the distance accept.
* `Format.judgeFloat_cases`: the finding, by what the comparison says.
* `Format.Passes.refl`, `passes_comm`, `passes_strict_iff`: a pattern passes for itself, the order
  does not matter without flushing, and only equal patterns pass where nothing is tolerated.
* `Format.judgeFloat_passes_iff`: the law of the check.
-/

import LibmAudit.Proofs.Check.Trial
import LibmAudit.Proofs.Order.Count

namespace LibmAudit.Format

attribute [local instance (high)] instPowNat

/-- Two finite values of opposite signs, none of them a zero. -/
def OppositeSigns (format : Format) (expected actual : ℕ) : Prop :=
  (format.isFinite expected = true ∧ format.isFinite actual = true) ∧
    (format.isZero expected = false ∧ format.isZero actual = false) ∧
    format.isNegative expected ≠ format.isNegative actual

/-- Two zeros, of one sign if signs of zeros count. -/
def ZerosAgree (format : Format) (policy : Policy) (expected actual : ℕ) : Prop :=
  format.isZero expected = true ∧ format.isZero actual = true ∧
    (policy.signedZero = true → format.isNegative expected = format.isNegative actual)

/-- A zero of the same sign for a subnormal value that may be flushed. -/
def IsFlushed (format : Format) (policy : Policy) (expected actual : ℕ) : Prop :=
  policy.flushSubnormals = true ∧ format.isSubnormal expected = true ∧
    format.isZero actual = true ∧ format.isNegative expected = format.isNegative actual

/-- Two finite values whose distance counts: not two zeros, not of opposite signs, and where signs
of zeros count no zero and a nonzero value of different sign bits. -/
def IsMeasured (format : Format) (policy : Policy) (expected actual : ℕ) : Prop :=
  (format.isFinite expected = true ∧ format.isFinite actual = true) ∧
    ¬ (format.isZero expected = true ∧ format.isZero actual = true) ∧
    ¬ format.OppositeSigns expected actual ∧
    ¬ (policy.signedZero = true ∧ format.isZero expected ≠ format.isZero actual ∧
      format.isNegative expected ≠ format.isNegative actual)

/-- What a policy lets pass for an expected pattern. -/
def Passes (format : Format) (policy : Policy) (expected actual : ℕ) : Prop :=
  (format.isNaN expected = true ∧ format.isNaN actual = true) ∨
  (format.isInfinite expected = true ∧ format.isInfinite actual = true ∧
    format.isNegative expected = format.isNegative actual) ∨
  (format.isFinite expected = true ∧ format.isFinite actual = true ∧
    (format.ZerosAgree policy expected actual ∨ format.IsFlushed policy expected actual ∨
      (format.IsMeasured policy expected actual ∧
        (format.valuesBetween expected actual).encard ≤ policy.maxUlps.count)))

variable (format : Format) {policy : Policy} {expected actual : ℕ}

/-! ## Comparisons -/

/-- The classes of two patterns decide for these. -/
theorem compareSpecial_eq_agree_iff :
    format.compareSpecial expected actual policy.signedZero policy.flushSubnormals = .agree ↔
      (format.isNaN expected = true ∧ format.isNaN actual = true) ∨
      (format.isInfinite expected = true ∧ format.isInfinite actual = true ∧
        format.isNegative expected = format.isNegative actual) ∨
      (format.isFinite expected = true ∧ format.isFinite actual = true ∧
        (format.ZerosAgree policy expected actual ∨ format.IsFlushed policy expected actual)) := by
  by_cases finite : format.isFinite expected = true ∧ format.isFinite actual = true
  · have number := format.isFinite_eq expected
    rw [finite.1, eq_comm, Bool.and_eq_true, Bool.not_eq_true', Bool.not_eq_true'] at number
    rw [compareSpecial_of_finite _ finite.1 finite.2, (format.compareZeros_iff ..).1, number.1,
      number.2, finite.1, finite.2]
    simp only [Bool.false_eq_true, false_and, false_or, true_and]
    rfl
  · rw [(format.compareSpecial_of_not_finite finite _ _).2, ← or_assoc,
      or_iff_left (a := (_ ∧ _) ∨ _) fun both => finite ⟨both.1, both.2.1⟩]

/-- They leave these to the distance. -/
theorem compareSpecial_eq_deferred_iff :
    format.compareSpecial expected actual policy.signedZero policy.flushSubnormals = .deferred ↔
      (format.OppositeSigns expected actual ∨ format.IsMeasured policy expected actual) ∧
        ¬ format.IsFlushed policy expected actual := by
  by_cases finite : format.isFinite expected = true ∧ format.isFinite actual = true
  · rw [compareSpecial_of_finite _ finite.1 finite.2, (format.compareZeros_iff ..).2]
    refine and_congr_left' ?_
    unfold IsMeasured OppositeSigns
    rw [and_iff_right finite, and_iff_right finite]
    cases format.isZero expected <;> cases format.isZero actual <;> simp
    tauto
  · refine iff_of_false (format.compareSpecial_of_not_finite finite _ _).1 ?_
    rintro ⟨opposite | measured, -⟩
    · exact finite opposite.1
    · exact finite measured.1

/-- The distance of two finite patterns is the number of values between them, unless they have
opposite signs. -/
theorem distance_eq (fits : expected < 2 ^ format.totalBits)
    (fits' : actual < 2 ^ format.totalBits)
    (finite : format.isFinite expected = true ∧ format.isFinite actual = true) :
    (format.OppositeSigns expected actual ∧ format.distance expected actual = .ok .unbounded) ∨
      (¬ format.OppositeSigns expected actual ∧
        ∃ count : ℕ, format.distance expected actual = .ok (.steps count) ∧
          (format.valuesBetween expected actual).encard = count) := by
  have number := (format.isNaN_eq_false_iff expected).mpr ((format.isFinite_iff _).mp finite.1).le
  have number' := (format.isNaN_eq_false_iff actual).mpr ((format.isFinite_iff _).mp finite.2).le
  have opposite : format.toOrdinal expected ≠ 0 ∧ format.toOrdinal actual ≠ 0 ∧
      decide (format.toOrdinal expected < 0) ≠ decide (format.toOrdinal actual < 0) ↔
        format.OppositeSigns expected actual := by
    unfold OppositeSigns
    rw [and_iff_right finite, Ne, Ne, format.toOrdinal_eq_zero_iff fits,
      format.toOrdinal_eq_zero_iff fits', Bool.not_eq_true, Bool.not_eq_true, and_assoc]
    refine and_congr_right fun nonzero => and_congr_right fun nonzero' => not_congr ?_
    rw [decide_eq_decide, format.toOrdinal_lt_zero_iff fits nonzero,
      format.toOrdinal_lt_zero_iff fits' nonzero']
    exact Bool.eq_iff_iff.symm
  rw [format.distance_of_finite finite.1 finite.2]
  unfold ordinalDistance
  by_cases apart : format.OppositeSigns expected actual
  · rw [if_pos (opposite.mpr apart)]
    exact Or.inl ⟨apart, rfl⟩
  · rw [if_neg (mt opposite.mp apart)]
    exact Or.inr ⟨apart, _, rfl, format.encard_valuesBetween fits fits' number number'⟩

/-- A pattern passes if its class agrees, or if it is left to the distance and that is tolerated. -/
theorem passes_iff :
    format.Passes policy expected actual ↔
      format.compareSpecial expected actual policy.signedZero policy.flushSubnormals = .agree ∨
      (format.compareSpecial expected actual policy.signedZero policy.flushSubnormals = .deferred ∧
        format.IsMeasured policy expected actual ∧
        (format.valuesBetween expected actual).encard ≤ policy.maxUlps.count) := by
  rw [compareSpecial_eq_agree_iff, compareSpecial_eq_deferred_iff]
  unfold Passes
  constructor
  · rintro (nan | infinite | ⟨finite, finite', zeros | flushed | ⟨measured, near⟩⟩)
    · exact Or.inl (Or.inl nan)
    · exact Or.inl (Or.inr (Or.inl infinite))
    · exact Or.inl (Or.inr (Or.inr ⟨finite, finite', Or.inl zeros⟩))
    · exact Or.inl (Or.inr (Or.inr ⟨finite, finite', Or.inr flushed⟩))
    · by_cases flushed : format.IsFlushed policy expected actual
      · exact Or.inl (Or.inr (Or.inr ⟨finite, finite', Or.inr flushed⟩))
      · exact Or.inr ⟨⟨Or.inr measured, flushed⟩, measured, near⟩
  · rintro ((nan | infinite | ⟨finite, finite', zeros | flushed⟩) | ⟨-, measured, near⟩)
    · exact Or.inl nan
    · exact Or.inr (Or.inl infinite)
    · exact Or.inr (Or.inr ⟨finite, finite', Or.inl zeros⟩)
    · exact Or.inr (Or.inr ⟨finite, finite', Or.inr (Or.inl flushed)⟩)
    · exact Or.inr (Or.inr ⟨measured.1.1, measured.1.2, Or.inr (Or.inr ⟨measured, near⟩)⟩)

/-! ## Findings -/

/-- A finding on a distance that is counted: it is tolerated, or how far it is. -/
theorem judgeDistance_steps (policy : Policy) (count : ℕ) :
    (judgeDistance policy (.steps count) = .ok none ↔ count ≤ policy.maxUlps.count) ∧
      ∀ finding, judgeDistance policy (.steps count) = .ok (some finding) →
        finding.kind = .tolerance ∧ finding.distance = some (.steps count) ∧
          policy.maxUlps.count < count := by
  unfold judgeDistance
  dsimp only
  by_cases near : count ≤ policy.maxUlps.count
  · rw [if_pos (within_steps.mpr near)]
    exact ⟨iff_of_true rfl near, by simp⟩
  · rw [if_neg (mt within_steps.mp near)]
    split
    · refine ⟨iff_of_false (by simp) near, fun finding same => ?_⟩
      rw [← Option.some.inj (Except.ok.inj same)]
      exact ⟨rfl, rfl, not_le.mp near⟩
    · exact ⟨iff_of_false (by simp) near, by simp⟩

/-- Nothing is found just if the pattern passes. -/
theorem judgeFloat_eq_none_iff (fits : expected < 2 ^ format.totalBits)
    (fits' : actual < 2 ^ format.totalBits) :
    judgeFloat format policy expected actual = .ok none ↔
      format.Passes policy expected actual := by
  have deferred := @compareSpecial_eq_deferred_iff format policy expected actual
  rw [passes_iff]
  unfold judgeFloat
  cases comparison : format.compareSpecial expected actual policy.signedZero
    policy.flushSubnormals with
  | agree => exact iff_of_true rfl (Or.inl rfl)
  | disagree cause => exact iff_of_false nofun (by simp)
  | deferred =>
    have left := (deferred.mp comparison).1
    dsimp only
    rw [or_iff_right nofun, and_iff_right rfl]
    rcases format.distance_eq fits fits' (left.elim (·.1) (·.1)) with
      ⟨opposite, distance⟩ | ⟨alike, count, distance, size⟩
    · rw [distance]
      exact iff_of_false nofun fun measured => measured.1.2.2.1 opposite
    · rw [distance, and_iff_right (left.resolve_left alike), size, Nat.cast_le]
      exact (judgeDistance_steps policy count).1

/-- What is found says where the comparison ended. -/
theorem judgeFloat_cases (fits : expected < 2 ^ format.totalBits)
    (fits' : actual < 2 ^ format.totalBits) {finding : Finding}
    (judged : judgeFloat format policy expected actual = .ok (some finding)) :
    (finding.kind = .sign ∧ finding.distance = some .unbounded ∧
        format.OppositeSigns expected actual) ∨
      (finding.kind = .tolerance ∧ format.IsMeasured policy expected actual ∧
        ∃ count : ℕ, finding.distance = some (.steps count) ∧
          (format.valuesBetween expected actual).encard = count ∧ policy.maxUlps.count < count) ∨
      (finding.kind = .special ∧ finding.distance = none ∧
        ¬ format.OppositeSigns expected actual ∧ ¬ format.IsMeasured policy expected actual) := by
  have agree := @compareSpecial_eq_agree_iff format policy expected actual
  have deferred := @compareSpecial_eq_deferred_iff format policy expected actual
  unfold judgeFloat at judged
  cases comparison : format.compareSpecial expected actual policy.signedZero
    policy.flushSubnormals with
  | agree =>
    rw [comparison] at judged
    exact absurd judged nofun
  | disagree cause =>
    rw [comparison] at judged agree deferred
    obtain rfl := Option.some.inj (Except.ok.inj judged)
    -- Values that are left to their distance do not disagree, and a flushed one agrees.
    have finite (either : format.OppositeSigns expected actual ∨
        format.IsMeasured policy expected actual) : False := by
      by_cases flushed : format.IsFlushed policy expected actual
      · have both := either.elim (·.1) (·.1)
        exact absurd (agree.mpr (Or.inr (Or.inr ⟨both.1, both.2, Or.inr flushed⟩))) nofun
      · exact absurd (deferred.mpr ⟨either, flushed⟩) nofun
    exact Or.inr (Or.inr ⟨rfl, rfl, fun opposite => finite (Or.inl opposite),
      fun measured => finite (Or.inr measured)⟩)
  | deferred =>
    rw [comparison] at judged
    have left := (deferred.mp comparison).1
    dsimp only at judged
    rcases format.distance_eq fits fits' (left.elim (·.1) (·.1)) with
      ⟨opposite, distance⟩ | ⟨alike, count, distance, size⟩
    · rw [distance] at judged
      obtain rfl := Option.some.inj (Except.ok.inj judged)
      exact Or.inl ⟨rfl, rfl, opposite⟩
    · rw [distance] at judged
      obtain ⟨kind, steps, far⟩ := (judgeDistance_steps policy count).2 finding judged
      exact Or.inr (Or.inl ⟨kind, left.resolve_left alike, count, steps, size, far⟩)

/-! ## Consequences -/

theorem not_oppositeSigns_self : ¬ format.OppositeSigns expected expected := fun opposite =>
  opposite.2.2 rfl

/-- A pattern passes for itself. -/
theorem Passes.refl (policy : Policy) (fits : expected < 2 ^ format.totalBits) :
    format.Passes policy expected expected := by
  by_cases finite : format.isFinite expected = true
  · refine Or.inr (Or.inr ⟨finite, finite, ?_⟩)
    by_cases zero : format.isZero expected = true
    · exact Or.inl ⟨zero, zero, fun _ => rfl⟩
    · refine Or.inr (Or.inr ⟨⟨⟨finite, finite⟩, fun both => zero both.1,
        format.not_oppositeSigns_self, fun strict => strict.2.2 rfl⟩, ?_⟩)
      have number := (format.isNaN_eq_false_iff expected).mpr ((format.isFinite_iff _).mp finite).le
      rw [format.encard_valuesBetween fits fits number number, sub_self]
      exact bot_le
  · rw [isFinite_eq, Bool.and_eq_true, Bool.not_eq_true', Bool.not_eq_true', not_and_or,
      Bool.not_eq_false, Bool.not_eq_false] at finite
    rcases finite with nan | infinite
    · exact Or.inl ⟨nan, nan⟩
    · exact Or.inr (Or.inl ⟨infinite, infinite, rfl⟩)

theorem OppositeSigns.symm {format : Format} (opposite : format.OppositeSigns expected actual) :
    format.OppositeSigns actual expected :=
  ⟨opposite.1.symm, opposite.2.1.symm, opposite.2.2.symm⟩

theorem Passes.symm {format : Format} (kept : policy.flushSubnormals = false)
    (passes : format.Passes policy expected actual) : format.Passes policy actual expected := by
  rcases passes with nan | infinite | ⟨finite, finite', zeros | flushed | ⟨measured, near⟩⟩
  · exact Or.inl nan.symm
  · exact Or.inr (Or.inl ⟨infinite.2.1, infinite.1, infinite.2.2.symm⟩)
  · exact Or.inr (Or.inr ⟨finite', finite, Or.inl
      ⟨zeros.2.1, zeros.1, fun strict => (zeros.2.2 strict).symm⟩⟩)
  · rw [IsFlushed, kept] at flushed
    exact absurd flushed.1 Bool.false_ne_true
  · obtain ⟨-, some, alike, signs⟩ := measured
    refine Or.inr (Or.inr ⟨finite', finite, Or.inr (Or.inr ⟨⟨⟨finite', finite⟩,
      fun both => some both.symm, fun opposite => alike opposite.symm,
      fun strict => signs ⟨strict.1, strict.2.1.symm, strict.2.2.symm⟩⟩, ?_⟩)⟩)
    rwa [valuesBetween_comm]

/-- Without flushing it does not matter which of two patterns is expected. -/
theorem passes_comm (kept : policy.flushSubnormals = false) :
    format.Passes policy expected actual ↔ format.Passes policy actual expected :=
  ⟨Passes.symm kept, Passes.symm kept⟩

/-- Where nothing is tolerated, only equal patterns pass, and NaNs. -/
theorem passes_strict_iff (fits : expected < 2 ^ format.totalBits)
    (fits' : actual < 2 ^ format.totalBits) (tight : policy.maxUlps.count = 0)
    (signs : policy.signedZero = true) (kept : policy.flushSubnormals = false) :
    format.Passes policy expected actual ↔
      (format.isNaN expected = true ∧ format.isNaN actual = true) ∨ expected = actual := by
  constructor
  · rintro (nan | ⟨infinite, infinite', sign⟩ |
      ⟨finite, finite', zeros | flushed | ⟨measured, near⟩⟩)
    · exact Or.inl nan
    · rw [isInfinite_iff] at infinite infinite'
      exact Or.inr (format.eq_of_magnitudeField_eq fits fits' sign
        (infinite.trans infinite'.symm))
    · obtain ⟨zero, zero', sign⟩ := zeros
      rw [isZero_iff] at zero zero'
      exact Or.inr (format.eq_of_magnitudeField_eq fits fits' (sign signs)
        (zero.trans zero'.symm))
    · rw [IsFlushed, kept] at flushed
      exact absurd flushed.1 Bool.false_ne_true
    · have number := (format.isNaN_eq_false_iff expected).mpr ((format.isFinite_iff _).mp finite).le
      have number' := (format.isNaN_eq_false_iff actual).mpr ((format.isFinite_iff _).mp finite').le
      rw [format.encard_valuesBetween fits fits' number number', tight, Nat.cast_le] at near
      have same : format.toOrdinal expected = format.toOrdinal actual := by omega
      refine Or.inr (format.eq_of_toOrdinal_eq fits fits' (fun zero => ?_) same)
      -- The ordinals are equal, so both would be zeros.
      rw [← isZero_iff, ← format.toOrdinal_eq_zero_iff fits] at zero
      exact measured.2.1 ⟨(format.toOrdinal_eq_zero_iff fits).mp zero,
        (format.toOrdinal_eq_zero_iff fits').mp (same ▸ zero)⟩
  · rintro (nan | rfl)
    · exact Or.inl nan
    · exact Passes.refl format policy fits

/-! ## The law -/

/-- A check of an output adds no failure if the pattern of the result passes, and else one failure,
by what is found. -/
theorem checkOutput_float {table : Table} (fits : expected < 2 ^ table.context.format.totalBits)
    (fits' : actual < 2 ^ table.context.format.totalBits) (policy : Policy) (vector : Vector)
    (output : ℕ) {result : Value}
    (converted : result.toFormat table.context.format = .ok actual) (tally : Tally) :
    ∃ after finding, judgeFloat table.context.format policy expected actual = .ok finding ∧
      checkOutput table policy vector output (.float expected) result tally = .ok after ∧
      after.failures = tally.failures ++ finding.toList.map fun finding =>
        ⟨vector.index, output, vector.inputs, .float expected, some (.float actual), finding.kind,
          finding.distance, finding.reason⟩ := by
  have narrow : table.context.format.totalBits ≤ 13999 := by
    unfold Value.toFormat at converted
    split at converted
    · next stored => exact narrow_of_carrier? stored
    · exact absurd converted nofun
  obtain ⟨distance, measures⟩ := table.context.format.measured_eq_ok policy expected actual
  obtain ⟨finding, judged, -⟩ := table.context.format.judgeFloat_eq_ok narrow policy fits fits'
  refine ⟨tally.append (Judgement.tally ⟨some (.float actual), distance, finding⟩ vector output
    (.float expected)), finding, judged, ?_, rfl⟩
  rw [checkOutput_eq, judgeOutput_float converted measures judged]
  rfl

/-- The law of the float check. Nothing is found just if the pattern passes. Otherwise one failure
is added: of the sign for opposite signs, of the tolerance for a measured distance that exceeds it,
and of a special value in all other cases. A pattern passes for itself; without flushing the order
of the two does not matter; and where nothing is tolerated only equal patterns pass, and NaNs. -/
theorem judgeFloat_passes_iff (policy : Policy) (fits : expected < 2 ^ format.totalBits)
    (fits' : actual < 2 ^ format.totalBits) :
    (judgeFloat format policy expected actual = .ok none ↔
      format.Passes policy expected actual) ∧
    (∀ (table : Table) (vector : Vector) (output : ℕ) (result : Value) (tally : Tally),
      table.context.format = format → result.toFormat format = .ok actual →
        ∃ after, checkOutput table policy vector output (.float expected) result tally = .ok after ∧
          (format.Passes policy expected actual → after.failures = tally.failures) ∧
          (¬ format.Passes policy expected actual →
            ∃ kind distance reason,
              after.failures = tally.failures ++ [⟨vector.index, output, vector.inputs,
                .float expected, some (.float actual), kind, distance, reason⟩] ∧
              (kind = .sign ↔ format.OppositeSigns expected actual) ∧
              (kind = .tolerance ↔ format.IsMeasured policy expected actual ∧
                policy.maxUlps.count < (format.valuesBetween expected actual).encard) ∧
              (kind = .special ↔ ¬ format.OppositeSigns expected actual ∧
                ¬ (format.IsMeasured policy expected actual ∧
                  policy.maxUlps.count < (format.valuesBetween expected actual).encard)))) ∧
    judgeFloat format policy expected expected = .ok none ∧
    (policy.flushSubnormals = false →
      (judgeFloat format policy expected actual = .ok none ↔
        judgeFloat format policy actual expected = .ok none)) ∧
    (policy.maxUlps.count = 0 → policy.signedZero = true → policy.flushSubnormals = false →
      (judgeFloat format policy expected actual = .ok none ↔
        (format.isNaN expected = true ∧ format.isNaN actual = true) ∨ expected = actual)) := by
  have nothing := @judgeFloat_eq_none_iff format policy expected actual fits fits'
  have same := (format.judgeFloat_eq_none_iff fits fits).mpr (Passes.refl format policy fits)
  refine ⟨nothing, ?_, same, fun kept => ?_, fun tight signs kept => ?_⟩
  · rintro table vector output result tally rfl converted
    obtain ⟨after, finding, judged, checked, failures⟩ :=
      checkOutput_float fits fits' policy vector output converted tally
    refine ⟨after, checked, fun passes => ?_, fun fails => ?_⟩
    · rw [nothing.mpr passes] at judged
      obtain rfl := Except.ok.inj judged
      rw [failures, Option.toList_none, List.map_nil, List.append_nil]
    · cases finding with
      | none => exact absurd (nothing.mp judged) fails
      | some finding =>
        refine ⟨finding.kind, finding.distance, finding.reason, failures, ?_⟩
        rcases table.context.format.judgeFloat_cases fits fits' judged with
          ⟨kind, -, opposite⟩ | ⟨kind, measured, count, -, size, far⟩ |
          ⟨kind, -, alike, unmeasured⟩
        · have unmeasured : ¬ table.context.format.IsMeasured policy expected actual :=
            fun measured => measured.2.2.1 opposite
          simp [kind, opposite, unmeasured]
        · have far : policy.maxUlps.count <
              (table.context.format.valuesBetween expected actual).encard := by
            rw [size]
            exact_mod_cast far
          simp [kind, measured, measured.2.2.1, far]
        · simp [kind, alike, unmeasured]
  · rw [nothing, format.judgeFloat_eq_none_iff fits' fits, format.passes_comm kept]
  · rw [nothing, format.passes_strict_iff fits fits' tight signs kept]

/-- One unit in the last place passes for the exponential function, and a subnormal value does not
pass for a zero of the other sign where signs of zeros count. -/
theorem judgeFloat_passes_iff_half :
    half.Passes (.default .exp) 0x3c00 0x3c01 ∧ ¬ half.Passes (.default .sin) 0x8001 0 :=
  ⟨(half.judgeFloat_passes_iff (.default .exp) (by decide) (by decide)).1.mp rfl,
    mt (half.judgeFloat_passes_iff (.default .sin) (by decide) (by decide)).1.mpr nofun⟩

end LibmAudit.Format
