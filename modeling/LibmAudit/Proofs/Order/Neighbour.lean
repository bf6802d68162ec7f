/-
**The neighbour of a value.**

The reference steps from a value to the next one by its ordinal. Between two ordinals that differ by
one there is no value, across powers of two, at the subnormal values and at the infinities. But both
zeros have one ordinal, and the way back from it leads to the positive one.

* `Format.IsNeighbour`: the value next to one value, on the way to another one.
* `Format.isNeighbour_ofOrdinal`: one step in the ordinals leads there.
* `Format.isZero_ofOrdinal`: what becomes of the sign at zero.
* `LibraryKind.nextafter_isNeighbour`: the response of the reference.
* `LibraryKind.nextafter_loses_sign`: it gives a positive zero where the native library keeps the
  sign.
-/

import LibmAudit.Library.Choice
import LibmAudit.Proofs.Order.Count
import LibmAudit.Proofs.Order.Finite

namespace LibmAudit

attribute [local instance (high)] instPowNat

namespace Format

/-- The value of a pattern is the next one after another value, on the way to a third one. -/
structure IsNeighbour (format : Format) (pattern target next : ℕ) : Prop where
  fits : next < 2 ^ format.totalBits
  number : format.isNaN next = false
  onTheWay : (format.valueOf pattern < format.valueOf next ∧
      format.valueOf next ≤ format.valueOf target) ∨
    (format.valueOf target ≤ format.valueOf next ∧ format.valueOf next < format.valueOf pattern)
  adjacent : ∀ value ∈ format.values,
    value ≤ min (format.valueOf pattern) (format.valueOf next) ∨
      max (format.valueOf pattern) (format.valueOf next) ≤ value

variable (format : Format) {pattern target : ℕ} {ordinal : ℤ}

/-! ## One step -/

/-- An ordinal up to that of the infinities is that of a pattern with its value. -/
theorem ofOrdinal_of_le (inside : ordinal.natAbs ≤ format.infinityOrdinal) :
    format.ofOrdinal ordinal < 2 ^ format.totalBits ∧
      format.isNaN (format.ofOrdinal ordinal) = false ∧
      format.valueOf (format.ofOrdinal ordinal) = format.valueAt ordinal := by
  have small := inside.trans_lt format.infinityOrdinal_lt
  have fits := format.ofOrdinal_lt small
  have back := format.toOrdinal_ofOrdinal small
  have number : format.isNaN (format.ofOrdinal ordinal) = false := by
    rw [isNaN_eq_false_iff, ← format.natAbs_toOrdinal fits, back]
    exact inside
  refine ⟨fits, number, ?_⟩
  rw [format.valueOf_eq_valueAt fits number, back]

/-- One step in the ordinals, up or down, leads to the neighbour. -/
theorem isNeighbour_ofOrdinal (fits : pattern < 2 ^ format.totalBits)
    (fits' : target < 2 ^ format.totalBits) (number : format.isNaN pattern = false)
    (number' : format.isNaN target = false)
    (step : (format.toOrdinal pattern < format.toOrdinal target ∧
        ordinal = format.toOrdinal pattern + 1) ∨
      (format.toOrdinal target < format.toOrdinal pattern ∧
        ordinal = format.toOrdinal pattern - 1)) :
    format.IsNeighbour pattern target (format.ofOrdinal ordinal) := by
  have start := format.natAbs_toOrdinal_le fits number
  have goal := format.natAbs_toOrdinal_le fits' number'
  have inside : ordinal.natAbs ≤ format.infinityOrdinal := by omega
  obtain ⟨next_fits, next_number, next_value⟩ := format.ofOrdinal_of_le inside
  have mono := format.valueAt_strictMonoOn
  refine ⟨next_fits, next_number, ?_, ?_⟩
  · rw [next_value, format.valueOf_eq_valueAt fits number, format.valueOf_eq_valueAt fits' number',
      mono.lt_iff_lt start inside, mono.le_iff_le inside goal, mono.le_iff_le goal inside,
      mono.lt_iff_lt inside start]
    omega
  · intro value member
    rw [← image_valueAt] at member
    obtain ⟨other, bound, rfl⟩ := member
    rw [next_value, format.valueOf_eq_valueAt fits number,
      ← mono.monotoneOn.map_min start inside, ← mono.monotoneOn.map_max start inside]
    have extremes : (min (format.toOrdinal pattern) ordinal).natAbs ≤ format.infinityOrdinal ∧
        (max (format.toOrdinal pattern) ordinal).natAbs ≤ format.infinityOrdinal := by omega
    rw [mono.le_iff_le bound extremes.1, mono.le_iff_le extremes.2 bound]
    omega

/-- Only the least subnormal values have zero for a neighbour, and it is the positive zero. -/
theorem isZero_ofOrdinal (fits : pattern < 2 ^ format.totalBits)
    (small : ordinal.natAbs < 2 ^ (format.totalBits - 1))
    (step : ordinal = format.toOrdinal pattern + 1 ∨ ordinal = format.toOrdinal pattern - 1)
    (zero : format.isZero (format.ofOrdinal ordinal) = true) :
    format.ofOrdinal ordinal = format.zero false ∧
      pattern = format.minSubnormal (format.isNegative pattern) := by
  rw [← format.toOrdinal_eq_zero_iff (format.ofOrdinal_lt small),
    format.toOrdinal_ofOrdinal small] at zero
  refine ⟨by rw [zero]; rfl, ?_⟩
  have number := format.natAbs_toOrdinal fits
  have whole := format.signBit_add_magnitudeField fits
  unfold minSubnormal
  omega

/-- An infinity is not a tiny value. -/
theorem not_tiny_of_infinite {pattern : ℤ} (infinite : format.isInfinite pattern = true) :
    ¬ (format.isSubnormal pattern = true ∨ format.isZero pattern = true) := by
  have field : format.exponentField pattern = format.exponentMask := by
    rw [isInfinite, Bool.and_eq_true, beq_iff_eq] at infinite
    exact infinite.1
  have mask := format.one_le_exponentMask
  have top := format.infinityOrdinal_pos
  rw [isInfinite_iff] at infinite
  rintro (subnormal | zero)
  · rw [isSubnormal, Bool.and_eq_true, beq_iff_eq] at subnormal
    omega
  · rw [isZero_iff] at zero
    omega

end Format

/-! ## The response -/

namespace Reference

open Format

variable {format : Format} {pattern target : ℕ}

/-- Between two values the reference steps by one ordinal, and the class of the neighbour tells the
exceptions. -/
theorem nextafter_of_ne (number : format.isNaN pattern = false)
    (number' : format.isNaN target = false)
    (apart : format.toOrdinal pattern ≠ format.toOrdinal target) :
    ∃ (ordinal : ℤ) (flags : Flags),
      nextafter format pattern target = .ofPattern (format.ofOrdinal ordinal) flags ∧
      ((format.toOrdinal pattern < format.toOrdinal target ∧
          ordinal = format.toOrdinal pattern + 1) ∨
        (format.toOrdinal target < format.toOrdinal pattern ∧
          ordinal = format.toOrdinal pattern - 1)) ∧
      (flags.overflow = true ↔ format.isInfinite (format.ofOrdinal ordinal) = true) ∧
      (flags.underflow = true ↔ format.isSubnormal (format.ofOrdinal ordinal) = true ∨
        format.isZero (format.ofOrdinal ordinal) = true) ∧
      flags = { overflow := flags.overflow, underflow := flags.underflow,
                inexact := flags.overflow || flags.underflow } := by
  obtain ⟨ordinal, chosen⟩ : ∃ ordinal, ordinal =
      if format.toOrdinal pattern < format.toOrdinal target then format.toOrdinal pattern + 1
      else format.toOrdinal pattern - 1 := ⟨_, rfl⟩
  unfold nextafter
  dsimp only
  rw [if_neg (by rw [number, number']; decide), if_neg apart, ← chosen]
  have way : (format.toOrdinal pattern < format.toOrdinal target ∧
      ordinal = format.toOrdinal pattern + 1) ∨
    (format.toOrdinal target < format.toOrdinal pattern ∧
      ordinal = format.toOrdinal pattern - 1) := by
    split at chosen
    · next up => exact Or.inl ⟨up, chosen⟩
    · exact Or.inr ⟨by omega, chosen⟩
  refine ⟨ordinal, _, rfl, way, ?_⟩
  by_cases infinite : format.isInfinite (format.ofOrdinal ordinal) = true
  · rw [if_pos infinite]
    exact ⟨iff_of_true rfl infinite,
      iff_of_false Bool.false_ne_true (format.not_tiny_of_infinite infinite), rfl⟩
  · rw [if_neg infinite]
    simp only [Bool.or_eq_true]
    by_cases tiny : format.isSubnormal (format.ofOrdinal ordinal) = true ∨
        format.isZero (format.ofOrdinal ordinal) = true
    · rw [if_pos tiny]
      exact ⟨iff_of_false Bool.false_ne_true infinite, iff_of_true rfl tiny, rfl⟩
    · rw [if_neg tiny]
      exact ⟨iff_of_false Bool.false_ne_true infinite, iff_of_false Bool.false_ne_true tiny, rfl⟩

end Reference

namespace LibraryKind

open Format

/-- The neighbour of a value in the direction of another one, in every mode. Equal values give the
second one. Else the response is the next value on the way, with the exceptions of its class. A zero
is positive, so that the sign of the operand is lost for one operand: the least subnormal value
below zero. -/
theorem nextafter_isNeighbour (format : Format) (mode : Mode) {pattern target : ℕ}
    (fits : pattern < 2 ^ format.totalBits) (fits' : target < 2 ^ format.totalBits)
    (number : format.isNaN pattern = false) (number' : format.isNaN target = false) :
    ∃ (next : ℕ) (flags : Flags),
      reference.call .nextafter format mode [.float pattern, .float target] =
        .ok ⟨[.float next], flags⟩ ∧
      (format.valueOf pattern = format.valueOf target → next = target ∧ flags = .none) ∧
      (format.valueOf pattern ≠ format.valueOf target →
        format.IsNeighbour pattern target next ∧
        (format.isZero next = true →
          (format.isNegative next = format.isNegative pattern ↔
            pattern ≠ format.minSubnormal true))) ∧
      (flags.overflow = true ↔ format.valueOf pattern ≠ format.valueOf target ∧
        format.isInfinite next = true) ∧
      (flags.underflow = true ↔ format.valueOf pattern ≠ format.valueOf target ∧
        (format.isSubnormal next = true ∨ format.isZero next = true)) ∧
      flags = { overflow := flags.overflow, underflow := flags.underflow,
                inexact := flags.overflow || flags.underflow } := by
  have called : reference.call .nextafter format mode [.float pattern, .float target] =
      .ok (Reference.nextafter format pattern target) := rfl
  have same := format.valueOf_eq_iff fits fits' number number'
  rw [called]
  by_cases apart : format.toOrdinal pattern = format.toOrdinal target
  · have response : Reference.nextafter format pattern target = .ofPattern target := by
      unfold Reference.nextafter
      dsimp only
      rw [if_neg (by rw [number, number']; decide), if_pos apart]
    have equal := same.mpr apart
    rw [response]
    exact ⟨target, .none, rfl, fun _ => ⟨rfl, rfl⟩, fun differ => absurd equal differ,
      iff_of_false Bool.false_ne_true fun both => both.1 equal,
      iff_of_false Bool.false_ne_true fun both => both.1 equal, rfl⟩
  · obtain ⟨ordinal, flags, response, step, overflow, underflow, inexact⟩ :=
      Reference.nextafter_of_ne number number' apart
    have differ := mt same.mp apart
    have neighbour := format.isNeighbour_ofOrdinal fits fits' number number' step
    rw [response]
    refine ⟨_, flags, rfl, fun equal => absurd equal differ, fun _ => ⟨neighbour, fun zero => ?_⟩,
      overflow.trans (and_iff_right differ).symm, underflow.trans (and_iff_right differ).symm,
      inexact⟩
    have small : ordinal.natAbs < 2 ^ (format.totalBits - 1) := by
      have start := format.natAbs_toOrdinal_le fits number
      have goal := format.natAbs_toOrdinal_le fits' number'
      have top := format.infinityOrdinal_lt
      omega
    have one_lt : 1 < 2 ^ (format.totalBits - 1) :=
      (Nat.succ_le_of_lt format.infinityOrdinal_pos).trans_lt format.infinityOrdinal_lt
    obtain ⟨positive, least⟩ := format.isZero_ofOrdinal fits small
      (step.imp And.right And.right) zero
    have sign : format.isNegative (format.ofOrdinal ordinal) = false := by
      rw [positive]
      exact @Format.isNegative_signBit_add format false 0 (Nat.two_pow_pos _)
    rw [sign]
    cases negative : format.isNegative pattern
    · refine iff_of_true rfl fun other => ?_
      rw [other, minSubnormal, format.isNegative_signBit_add true one_lt] at negative
      exact Bool.false_ne_true negative.symm
    · rw [negative] at least
      exact iff_of_false Bool.false_ne_true fun other => other least

/-- In the half format the neighbour of the largest finite value is the infinity. -/
theorem nextafter_isNeighbour_half : half.IsNeighbour 0x7bff 0x7c00 0x7c00 := by
  obtain ⟨next, flags, called, -, differ, -⟩ := @nextafter_isNeighbour half .nearestEven 0x7bff
    0x7c00 (by decide) (by decide) (by decide) (by decide)
  obtain rfl : 0x7c00 = next := by
    have outputs := congrArg Response.outputs (Except.ok.inj called)
    exact SlotValue.float.inj (List.head_eq_of_cons_eq outputs)
  refine (differ ?_).1
  rw [Ne, half.valueOf_eq_iff (by decide) (by decide) (by decide) (by decide)]
  decide

/-- From the least subnormal value below zero upwards the reference gives the positive zero, where
the native library gives the negative one. -/
theorem nextafter_loses_sign :
    (reference.call .nextafter double .nearestEven
        [.float (double.minSubnormal true), .float 0x3ff0000000000000]).map Response.outputs =
      .ok [.float (double.zero false)] ∧
    (native.call .nextafter double .nearestEven
        [.float (double.minSubnormal true), .float 0x3ff0000000000000]).map Response.outputs =
      .ok [.float (double.zero true)] ∧
    double.isNegative (double.zero false) ≠ double.isNegative (double.minSubnormal true) := by
  refine ⟨rfl, rfl, by decide⟩

end LibraryKind

end LibmAudit
