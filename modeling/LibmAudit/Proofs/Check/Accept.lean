/-
**When a float output is accepted.**

* `Format.Accepts`: what a policy accepts, by the classes of the two patterns and their distance.
* `Format.compareSpecial_of_finite`, `compareSpecial_of_not_finite`: where special values decide.
* `Format.judgeFloat_eq_ok`: the finding on an output is that it is accepted, or why it is not.
* `Policy.Relaxes`: one policy asks for less than another one.
* `Format.Accepts.relax`: it accepts what the other one accepts.
-/

import LibmAudit.Check.Verdict
import LibmAudit.Proofs.Order.Ordinal
import LibmAudit.Proofs.Rendering.RoundTrip

namespace LibmAudit

attribute [local instance (high)] instPowNat

namespace Format

/-- Two finite patterns agree: as zeros, as a subnormal value that is flushed to zero, or by their
distance, where a sign of a zero that must be kept rules the distance out. -/
def AcceptsFinite (format : Format) (policy : Policy) (expected actual : ℕ) : Prop :=
  (format.isZero expected = true ∧ format.isZero actual = true ∧
    (policy.signedZero = true → format.isNegative expected = format.isNegative actual)) ∨
  (policy.flushSubnormals = true ∧ format.isSubnormal expected = true ∧
    format.isZero actual = true ∧ format.isNegative expected = format.isNegative actual) ∨
  (¬ (format.isZero expected = true ∧ format.isZero actual = true) ∧
    (policy.signedZero = true → format.isZero expected = true ∨ format.isZero actual = true →
      format.isNegative expected = format.isNegative actual) ∧
    ∃ count, format.distance expected actual = .ok (.steps count) ∧ count ≤ policy.maxUlps.count)

/-- What a policy accepts: two NaNs, two infinities of one sign, finite patterns that agree. -/
def Accepts (format : Format) (policy : Policy) (expected actual : ℕ) : Prop :=
  (format.isNaN expected = true ∧ format.isNaN actual = true) ∨
  (format.isInfinite expected = true ∧ format.isInfinite actual = true ∧
    format.isNegative expected = format.isNegative actual) ∨
  (format.isFinite expected = true ∧ format.isFinite actual = true ∧
    format.AcceptsFinite policy expected actual)

variable (format : Format) {expected actual : ℕ}

/-! ## Classes -/

theorem isFinite_eq (pattern : ℤ) :
    format.isFinite pattern = (!format.isNaN pattern && !format.isInfinite pattern) := by
  unfold isFinite isNaN isInfinite
  cases field : format.exponentField pattern == format.exponentMask <;>
    cases fraction : format.fractionField pattern == 0 <;> simp_all [bne]

theorem isNaN_and_isInfinite (pattern : ℤ) :
    (format.isNaN pattern && format.isInfinite pattern) = false := by
  unfold isNaN isInfinite
  cases field : format.exponentField pattern == format.exponentMask <;>
    cases fraction : format.fractionField pattern == 0 <;> simp_all [bne]

/-! ## Special values -/

/-- Of two patterns that are no NaNs and no infinities, these agree without a distance, and these
are left to it. -/
theorem compareZeros_iff (expected actual : ℕ) (signedZero flush : Bool) :
    (format.compareZeros expected actual signedZero flush = .agree ↔
      (format.isZero expected = true ∧ format.isZero actual = true ∧
        (signedZero = true → format.isNegative expected = format.isNegative actual)) ∨
      (flush = true ∧ format.isSubnormal expected = true ∧ format.isZero actual = true ∧
        format.isNegative expected = format.isNegative actual)) ∧
    (format.compareZeros expected actual signedZero flush = .deferred ↔
      (¬ (format.isZero expected = true ∧ format.isZero actual = true) ∧
        (signedZero = true → format.isZero expected = true ∨ format.isZero actual = true →
          format.isNegative expected = format.isNegative actual)) ∧
      ¬ (flush = true ∧ format.isSubnormal expected = true ∧ format.isZero actual = true ∧
        format.isNegative expected = format.isNegative actual)) := by
  unfold compareZeros
  dsimp only
  rw [← beq_iff_eq (a := format.isNegative expected)]
  -- Only truth values are left, and the rules are compared case by case.
  generalize (format.isNegative expected == format.isNegative actual) = same
  generalize format.isZero expected = zero
  generalize format.isZero actual = zero'
  generalize format.isSubnormal expected = subnormal
  cases signedZero <;> cases same <;> cases zero <;> cases zero' <;> cases flush <;>
    cases subnormal <;> decide

/-- Finite patterns are compared as zeros. -/
theorem compareSpecial_of_finite (finite : format.isFinite expected = true)
    (finite' : format.isFinite actual = true) (signedZero flush : Bool) :
    format.compareSpecial expected actual signedZero flush =
      format.compareZeros expected actual signedZero flush := by
  rw [isFinite_eq, Bool.and_eq_true, Bool.not_eq_true', Bool.not_eq_true'] at finite finite'
  simp only [compareSpecial, compareInfinities, finite, finite']

/-- Where a pattern is not finite, NaNs agree, and infinities of one sign. -/
theorem compareSpecial_of_not_finite
    (special : ¬ (format.isFinite expected = true ∧ format.isFinite actual = true))
    (signedZero flush : Bool) :
    format.compareSpecial expected actual signedZero flush ≠ .deferred ∧
      (format.compareSpecial expected actual signedZero flush = .agree ↔
        (format.isNaN expected = true ∧ format.isNaN actual = true) ∨
        (format.isInfinite expected = true ∧ format.isInfinite actual = true ∧
          format.isNegative expected = format.isNegative actual)) := by
  have apart := format.isNaN_and_isInfinite expected
  have apart' := format.isNaN_and_isInfinite actual
  rw [isFinite_eq, isFinite_eq] at special
  unfold compareSpecial compareInfinities
  generalize format.isNaN expected = nan at *
  generalize format.isNaN actual = nan' at *
  generalize format.isInfinite expected = infinite at *
  generalize format.isInfinite actual = infinite' at *
  by_cases same : format.isNegative expected = format.isNegative actual <;>
    cases nan <;> cases nan' <;> cases infinite <;> cases infinite' <;> simp_all

/-! ## The finding -/

theorem distance_of_finite (finite : format.isFinite expected = true)
    (finite' : format.isFinite actual = true) :
    format.distance expected actual =
      .ok (ordinalDistance (format.toOrdinal expected) (format.toOrdinal actual)) := by
  rw [distance, finite, finite', Bool.and_self, if_pos rfl]

/-- The number of a pattern is below the weight of its sign bit. -/
theorem natAbs_toOrdinal_lt (fits : actual < 2 ^ format.totalBits) :
    (format.toOrdinal actual).natAbs < 2 ^ (format.totalBits - 1) := by
  rw [format.natAbs_toOrdinal fits]
  exact format.magnitudeField_lt actual

/-- So distances can be counted by the bits of the format. -/
theorem ordinalDistance_lt (fits : expected < 2 ^ format.totalBits)
    (fits' : actual < 2 ^ format.totalBits) {count : ℕ}
    (steps : ordinalDistance (format.toOrdinal expected) (format.toOrdinal actual) =
      .steps count) : count < 2 ^ format.totalBits := by
  have first := format.natAbs_toOrdinal_lt fits
  have second := format.natAbs_toOrdinal_lt fits'
  have width := format.two_pow_totalBits
  unfold ordinalDistance at steps
  split at steps
  · exact absurd steps nofun
  · have same := Distance.steps.inj steps
    omega

theorem within_steps {count tolerance : ℕ} :
    (Distance.steps count).within tolerance = true ↔ count ≤ tolerance := by
  rw [Distance.within, decide_eq_true_eq, Int.ofNat_le]

/-- A distance that can be counted gives a finding. -/
theorem judgeDistance_eq_ok (policy : Policy) {distance : Distance}
    (short : ∀ count, distance = .steps count → count < 10 ^ digitLimit) :
    ∃ finding, judgeDistance policy distance = .ok finding ∧
      (finding = none ↔ ∃ count, distance = .steps count ∧ count ≤ policy.maxUlps.count) := by
  unfold judgeDistance
  cases distance with
  | unbounded => exact ⟨_, rfl, iff_of_false nofun fun ⟨_, same, _⟩ => absurd same nofun⟩
  | steps count =>
    dsimp only
    by_cases close : (Distance.steps count).within policy.maxUlps.count = true
    · rw [if_pos close]
      exact ⟨none, rfl, iff_of_true rfl ⟨count, rfl, within_steps.mp close⟩⟩
    · have far := mt within_steps.mpr close
      have writable : isWritable (policy.maxUlps.count : ℤ) = true := by
        have small := short count rfl
        rw [isWritable, decide_eq_true_eq, Int.natAbs_natCast]
        omega
      rw [if_neg close, if_pos writable]
      refine ⟨_, rfl, iff_of_false nofun ?_⟩
      rintro ⟨other, same, near⟩
      exact far (Distance.steps.inj same ▸ near)

/-- Only finite patterns that do not agree as zeros are left to their distance. -/
theorem judgeFinite_eq_ok (narrow : format.totalBits ≤ 13999) (policy : Policy)
    (fits : expected < 2 ^ format.totalBits) (fits' : actual < 2 ^ format.totalBits)
    (finite : format.isFinite expected = true) (finite' : format.isFinite actual = true) :
    ∃ finding, judgeFloat format policy expected actual = .ok finding ∧
      (finding = none ↔ format.AcceptsFinite policy expected actual) := by
  obtain ⟨agree, deferred⟩ := format.compareZeros_iff expected actual policy.signedZero
    policy.flushSubnormals
  have distance := format.distance_of_finite finite finite'
  unfold judgeFloat
  rw [format.compareSpecial_of_finite finite finite']
  cases comparison : format.compareZeros expected actual policy.signedZero
    policy.flushSubnormals with
  | agree =>
    refine ⟨none, rfl, iff_of_true rfl ?_⟩
    exact (agree.mp comparison).elim Or.inl fun flushed => Or.inr (Or.inl flushed)
  | disagree cause =>
    rw [comparison] at agree deferred
    have apart := mt agree.mpr nofun
    have near := mt deferred.mpr nofun
    refine ⟨_, rfl, iff_of_false nofun ?_⟩
    rintro (zeros | flushed | ⟨some, signs, -⟩)
    · exact apart (Or.inl zeros)
    · exact apart (Or.inr flushed)
    · exact near ⟨⟨some, signs⟩, fun flushed => apart (Or.inr (by tauto))⟩
  | deferred =>
    obtain ⟨⟨some, signs⟩, flushed⟩ := deferred.mp comparison
    obtain ⟨finding, judged, accepted⟩ := judgeDistance_eq_ok policy fun count steps =>
      (format.ordinalDistance_lt fits fits' steps).trans (two_pow_lt_ten_pow narrow)
    refine ⟨finding, ?_, accepted.trans ?_⟩
    · dsimp only
      rw [distance]
      exact judged
    · unfold AcceptsFinite
      rw [distance]
      constructor
      · rintro ⟨count, steps, near⟩
        exact Or.inr (Or.inr ⟨some, signs, count, congrArg _ steps, near⟩)
      · rintro (zeros | flush | ⟨-, -, count, steps, near⟩)
        · exact absurd ⟨zeros.1, zeros.2.1⟩ some
        · exact absurd flush flushed
        · exact ⟨count, Except.ok.inj steps, near⟩

/-- The finding on two patterns is that they are accepted, or why they are not. -/
theorem judgeFloat_eq_ok (narrow : format.totalBits ≤ 13999) (policy : Policy)
    (fits : expected < 2 ^ format.totalBits) (fits' : actual < 2 ^ format.totalBits) :
    ∃ finding, judgeFloat format policy expected actual = .ok finding ∧
      (finding = none ↔ format.Accepts policy expected actual) := by
  by_cases finite : format.isFinite expected = true ∧ format.isFinite actual = true
  · obtain ⟨finding, judged, accepted⟩ :=
      format.judgeFinite_eq_ok narrow policy fits fits' finite.1 finite.2
    have number := format.isFinite_eq expected
    rw [finite.1, eq_comm, Bool.and_eq_true, Bool.not_eq_true', Bool.not_eq_true'] at number
    refine ⟨finding, judged, accepted.trans ?_⟩
    unfold Accepts
    rw [number.1, number.2, and_iff_right finite.1, and_iff_right finite.2]
    simp only [Bool.false_eq_true, false_and, false_or]
  · obtain ⟨decided, agree⟩ := format.compareSpecial_of_not_finite finite policy.signedZero
      policy.flushSubnormals
    unfold judgeFloat Accepts
    rw [← or_assoc, or_iff_left fun both => finite ⟨both.1, both.2.1⟩, ← agree]
    cases comparison : format.compareSpecial expected actual policy.signedZero
      policy.flushSubnormals with
    | agree => exact ⟨none, rfl, iff_of_true rfl rfl⟩
    | disagree cause => exact ⟨_, rfl, iff_of_false nofun nofun⟩
    | deferred => exact absurd comparison decided

/-- A finding on two patterns comes with the distance if that is measured. -/
theorem measured_eq_ok (policy : Policy) (expected actual : ℕ) :
    ∃ distance, measured format policy expected actual = .ok distance := by
  unfold measured
  by_cases finite : format.isFinite expected = true ∧ format.isFinite actual = true
  · rw [format.distance_of_finite finite.1 finite.2]
    split
    · exact ⟨_, rfl⟩
    · exact ⟨_, rfl⟩
  · obtain ⟨decided, -⟩ := format.compareSpecial_of_not_finite finite policy.signedZero
      policy.flushSubnormals
    split
    · next same => exact absurd same decided
    · exact ⟨_, rfl⟩

end Format

/-! ## Relaxed policies -/

/-- A policy asks for less than another one: it has a larger tolerance, keeps signs of zeros and
checks outputs only if the other one does, and flushes subnormal values if the other one does. -/
structure Policy.Relaxes (lax strict : Policy) : Prop where
  maxUlps : strict.maxUlps.count ≤ lax.maxUlps.count
  signedZero : lax.signedZero = true → strict.signedZero = true
  flushSubnormals : strict.flushSubnormals = true → lax.flushSubnormals = true
  width : lax.checked.length = strict.checked.length
  checked : ∀ output : ℕ, lax.checked[output]? = some true → strict.checked[output]? = some true

namespace Format

variable {format : Format} {lax strict : Policy} {expected actual : ℕ}

theorem AcceptsFinite.relax (relaxes : lax.Relaxes strict)
    (accepted : format.AcceptsFinite strict expected actual) :
    format.AcceptsFinite lax expected actual := by
  rcases accepted with ⟨zero, zero', sign⟩ | ⟨flush, flushed⟩ | ⟨some, signs, count, steps, near⟩
  · exact Or.inl ⟨zero, zero', fun kept => sign (relaxes.signedZero kept)⟩
  · exact Or.inr (Or.inl ⟨relaxes.flushSubnormals flush, flushed⟩)
  · exact Or.inr (Or.inr ⟨some, fun kept => signs (relaxes.signedZero kept), count, steps,
      near.trans relaxes.maxUlps⟩)

/-- A relaxed policy accepts what the other one accepts. -/
theorem Accepts.relax (relaxes : lax.Relaxes strict)
    (accepted : format.Accepts strict expected actual) : format.Accepts lax expected actual := by
  rcases accepted with nan | infinite | ⟨finite, finite', accepted⟩
  · exact Or.inl nan
  · exact Or.inr (Or.inl infinite)
  · exact Or.inr (Or.inr ⟨finite, finite', accepted.relax relaxes⟩)

end Format

end LibmAudit
