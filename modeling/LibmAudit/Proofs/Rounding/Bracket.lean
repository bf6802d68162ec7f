/-
**The modes bracket each other.**

The same number is rounded in all six modes. If it is a value of the format the results are equal.
Otherwise down and up are the two neighbours of it, and each other mode takes one of them.

* `Format.ordinalOf_mem`: every mode takes the greatest magnitude up to a number or the next one.
* `Format.roundReal_inexact_iff`: whether a result is inexact does not depend on the mode.
* `Format.Brackets`: results in the six modes that are equal or such neighbours.
* `Format.Coheres`, `RunsCohere`: results that also raise the same exceptions, overflow apart, and
  runs that all give such results or end with one fault.
* `Format.round_runsCohere`: rounding a significand with an exponent and a sticky bit.
-/

import LibmAudit.Proofs.Fallible
import LibmAudit.Proofs.Order.Ordinal
import LibmAudit.Proofs.Rounding.Exact
import LibmAudit.Proofs.Rounding.TwoStep

namespace LibmAudit.Format

attribute [local instance (high)] instPowNat

/-- Results in the six modes. They are all NaNs, or exact and equal, where exact zeros may differ in
their signs if `zeroSigns` allows it, or inexact: up is next to down, the nearest modes take one of
the two, toward zero takes the one nearer to zero and away from zero the other. -/
inductive Brackets (format : Format) (zeroSigns : Bool) (pattern : Mode → ℕ)
    (inexact : Mode → Bool) : Prop
  | nan (none : ∀ mode, format.isNaN (pattern mode) = true)
  | exact (exact : ∀ mode, inexact mode = false)
      (same : ∀ mode mode', pattern mode = pattern mode' ∨
        (zeroSigns = true ∧ format.isZero (pattern mode) = true ∧
          format.isZero (pattern mode') = true))
  | apart (inexact : ∀ mode, inexact mode = true)
      (number : ∀ mode, format.isNaN (pattern mode) = false)
      (next : format.toOrdinal (pattern .up) = format.toOrdinal (pattern .down) + 1)
      (nearestEven : pattern .nearestEven = pattern .down ∨ pattern .nearestEven = pattern .up)
      (nearestAway : pattern .nearestAway = pattern .down ∨ pattern .nearestAway = pattern .up)
      (zero : (pattern .towardZero = pattern .down ∧ pattern .awayFromZero = pattern .up ∧
          (format.toOrdinal (pattern .down)).natAbs < (format.toOrdinal (pattern .up)).natAbs) ∨
        (pattern .towardZero = pattern .up ∧ pattern .awayFromZero = pattern .down ∧
          (format.toOrdinal (pattern .up)).natAbs < (format.toOrdinal (pattern .down)).natAbs))

/-- Results in the six modes that bracket each other and raise the same exceptions but overflow. -/
structure Coheres (format : Format) (zeroSigns : Bool) (rounded : Mode → Rounded) : Prop where
  brackets : format.Brackets zeroSigns (fun mode => (rounded mode).pattern)
    fun mode => (rounded mode).flags.inexact
  invalid : ∀ mode mode', (rounded mode).flags.invalid = (rounded mode').flags.invalid
  divideByZero : ∀ mode mode',
    (rounded mode).flags.divideByZero = (rounded mode').flags.divideByZero
  underflow : ∀ mode mode', (rounded mode).flags.underflow = (rounded mode').flags.underflow

/-- Runs in the six modes that end with one fault or give results that cohere. -/
def RunsCohere (format : Format) (zeroSigns : Bool) (run : Mode → Except Fault Rounded) : Prop :=
  (∃ fault, ∀ mode, run mode = .error fault) ∨
    ∃ rounded : Mode → Rounded, (∀ mode, run mode = .ok (rounded mode)) ∧
      format.Coheres zeroSigns rounded

variable (format : Format) {x : ℝ}

/-! ## Numbers -/

/-- Every mode takes the greatest magnitude up to a number or the next one. -/
theorem ordinalOf_mem (mode : Mode) (negative : Bool) (positive : 0 < x) :
    format.ordinalOf mode negative x = format.floorOrdinal x ∨
      format.ordinalOf mode negative x = format.floorOrdinal x + 1 := by
  have lower : format.floorOrdinal x ≤ format.ordinalOf mode negative x :=
    Nat.add_le_add_left
      (mode.le_roundToInteger negative (Nat.floor_le (format.scaledReal_nonneg positive))) _
  have upper := format.ordinalOf_le_awayFromZero mode negative positive
  rcases format.ordinalOf_awayFromZero negative positive with ⟨-, away⟩ | ⟨-, away⟩ <;> omega

/-- A mode that overflows to infinity and is not a nearest one rounds away from zero. -/
theorem ordinalOf_of_outward {mode : Mode} {negative : Bool}
    (outward : mode.overflowsToInfinity negative = true)
    (directed : mode ≠ .nearestEven ∧ mode ≠ .nearestAway) :
    format.ordinalOf mode negative x = format.ordinalOf .awayFromZero negative x := by
  cases mode with
  | nearestEven => exact absurd rfl directed.1
  | nearestAway => exact absurd rfl directed.2
  | towardZero => exact absurd outward Bool.false_ne_true
  | awayFromZero => rfl
  | up | down => cases negative <;> first | rfl | exact absurd outward Bool.false_ne_true

/-- A result is inexact if the number is no finite magnitude, whatever the mode. -/
theorem roundReal_inexact_iff (mode : Mode) (negative : Bool) (positive : 0 < x) :
    (format.roundReal mode negative x).flags.inexact = true ↔
      format.infinityOrdinal ≤ format.floorOrdinal x ∨
        format.magnitudeAt (format.floorOrdinal x) ≠ x := by
  rw [roundReal_inexact, Ne, Ne, ← format.magnitudeAt_floorOrdinal_eq_iff positive]
  refine or_congr_left' fun exact => ?_
  rw [not_not] at exact
  have same := (format.magnitudeAt_ordinalOf_eq_iff mode negative positive).mpr
    ((format.magnitudeAt_floorOrdinal_eq_iff positive).mp exact)
  rw [format.magnitudeAt_strictMono.injective (same.trans exact.symm)]

/-! ## Ordinals in the range -/

/-- The number of the greatest finite magnitude up to a positive real number. -/
noncomputable def lowerOrdinal (format : Format) (x : ℝ) : ℕ :=
  min (format.floorOrdinal x) (format.infinityOrdinal - 1)

theorem lowerOrdinal_lt : format.lowerOrdinal x < format.infinityOrdinal := by
  have := format.infinityOrdinal_pos
  unfold lowerOrdinal
  omega

theorem roundReal_pattern_of_inward {mode : Mode} {negative : Bool}
    (inward : mode.overflowsToInfinity negative = false) :
    (format.roundReal mode negative x).pattern =
      format.signBit negative + format.lowerOrdinal x := by
  rw [roundReal_pattern, format.ordinalOf_of_inward inward, lastOrdinal,
    if_neg (Bool.eq_false_iff.mp inward)]
  rfl

theorem roundReal_pattern_of_outward {mode : Mode} {negative : Bool} (positive : 0 < x)
    (outward : mode.overflowsToInfinity negative = true)
    (directed : mode ≠ .nearestEven ∧ mode ≠ .nearestAway)
    (off : format.infinityOrdinal ≤ format.floorOrdinal x ∨
      format.magnitudeAt (format.floorOrdinal x) ≠ x) :
    (format.roundReal mode negative x).pattern =
      format.signBit negative + (format.lowerOrdinal x + 1) := by
  have end_pos := format.infinityOrdinal_pos
  rw [roundReal_pattern, format.ordinalOf_of_outward outward directed, lastOrdinal,
    if_pos outward, lowerOrdinal]
  rcases format.ordinalOf_awayFromZero negative positive with ⟨exact, away⟩ | ⟨-, away⟩
  · have beyond := off.resolve_right (not_not.mpr exact)
    omega
  · omega

theorem roundReal_pattern_of_nearest {mode : Mode} (negative : Bool) (positive : 0 < x)
    (nearest : mode = .nearestEven ∨ mode = .nearestAway) :
    (format.roundReal mode negative x).pattern =
        format.signBit negative + format.lowerOrdinal x ∨
      (format.roundReal mode negative x).pattern =
        format.signBit negative + (format.lowerOrdinal x + 1) := by
  have end_pos := format.infinityOrdinal_pos
  have last : format.lastOrdinal mode negative = format.infinityOrdinal := by
    rcases nearest with rfl | rfl <;> rfl
  rw [roundReal_pattern, last, lowerOrdinal]
  rcases format.ordinalOf_mem mode negative positive with floor | floor <;> omega

/-! ## Six modes -/

/-- Neighbours bracket each other: the lower one by number in the modes that go toward zero for a
sign, the next one in those that go away from it, and either one in the nearest modes. -/
theorem brackets_of_neighbours {negative zeroSigns : Bool} {lower : ℕ} {pattern : Mode → ℕ}
    {inexact : Mode → Bool} (finite : lower < format.infinityOrdinal)
    (off : ∀ mode, inexact mode = true)
    (inward : ∀ mode, mode.overflowsToInfinity negative = false →
      pattern mode = format.signBit negative + lower)
    (outward : ∀ mode, mode.overflowsToInfinity negative = true →
      mode ≠ .nearestEven ∧ mode ≠ .nearestAway →
        pattern mode = format.signBit negative + (lower + 1))
    (nearest : ∀ mode, mode = .nearestEven ∨ mode = .nearestAway →
      pattern mode = format.signBit negative + lower ∨
        pattern mode = format.signBit negative + (lower + 1)) :
    format.Brackets zeroSigns pattern inexact := by
  have small := finite.trans format.infinityOrdinal_lt
  have small' := (Nat.succ_le_of_lt finite).trans_lt format.infinityOrdinal_lt
  have ordinal := format.toOrdinal_signBit_add negative small
  have ordinal' : format.toOrdinal (format.signBit negative + (lower + 1) : ℕ) = _ :=
    format.toOrdinal_signBit_add negative small'
  have either (mode : Mode) : pattern mode = format.signBit negative + lower ∨
      pattern mode = format.signBit negative + (lower + 1) := by
    by_cases close : mode = .nearestEven ∨ mode = .nearestAway
    · exact nearest mode close
    · cases out : mode.overflowsToInfinity negative with
      | false => exact Or.inl (inward mode out)
      | true => exact Or.inr (outward mode out (not_or.mp close))
  have number (mode : Mode) : format.isNaN (pattern mode) = false := by
    rw [isNaN_eq_false_iff]
    rcases either mode with same | same
    · rw [same, format.magnitudeField_signBit_add negative small]
      exact finite.le
    · rw [same, format.magnitudeField_signBit_add negative small']
      exact finite
  have toward := inward .towardZero rfl
  have away := outward .awayFromZero rfl ⟨nofun, nofun⟩
  -- For a negative number the neighbour away from zero is the lower one.
  cases negative with
  | false =>
    have up := outward .up rfl ⟨nofun, nofun⟩
    have down := inward .down rfl
    change _ = ((lower : ℕ) : ℤ) at ordinal
    change _ = ((lower + 1 : ℕ) : ℤ) at ordinal'
    refine .apart off number ?_ ?_ ?_ (Or.inl ⟨toward.trans down.symm, away.trans up.symm, ?_⟩)
    · rw [up, down, ordinal, ordinal', Nat.cast_succ]
    · rw [up, down]
      exact nearest _ (Or.inl rfl)
    · rw [up, down]
      exact nearest _ (Or.inr rfl)
    · rw [up, down, ordinal, ordinal']
      omega
  | true =>
    have up := inward .up rfl
    have down := outward .down rfl ⟨nofun, nofun⟩
    change _ = -((lower : ℕ) : ℤ) at ordinal
    change _ = -((lower + 1 : ℕ) : ℤ) at ordinal'
    refine .apart off number ?_ ?_ ?_ (Or.inr ⟨toward.trans up.symm, away.trans down.symm, ?_⟩)
    · rw [up, down, ordinal, ordinal']
      omega
    · rw [up, down]
      exact (nearest _ (Or.inl rfl)).symm
    · rw [up, down]
      exact (nearest _ (Or.inr rfl)).symm
    · rw [up, down, ordinal, ordinal']
      omega

/-- The results of a positive number with a sign bracket each other. -/
theorem roundReal_brackets (negative : Bool) (positive : 0 < x) :
    format.Brackets false (fun mode => (format.roundReal mode negative x).pattern)
      fun mode => (format.roundReal mode negative x).flags.inexact := by
  by_cases off : format.infinityOrdinal ≤ format.floorOrdinal x ∨
      format.magnitudeAt (format.floorOrdinal x) ≠ x
  · exact format.brackets_of_neighbours format.lowerOrdinal_lt
      (fun mode => (format.roundReal_inexact_iff mode negative positive).mpr off)
      (fun mode inward => format.roundReal_pattern_of_inward inward)
      (fun mode outward directed =>
        format.roundReal_pattern_of_outward positive outward directed off)
      (fun mode nearest => format.roundReal_pattern_of_nearest negative positive nearest)
  · rw [not_or, not_le, not_not] at off
    obtain ⟨finite, exact⟩ := off
    have some : 0 < format.floorOrdinal x := by
      refine Nat.pos_of_ne_zero fun zero => positive.ne ?_
      rw [← exact, zero, magnitudeAt_zero]
    have value (mode : Mode) := format.roundReal_magnitudeAt mode negative some finite
    rw [exact] at value
    refine .exact (fun mode => ?_) fun mode mode' => Or.inl ?_
    · rw [value]
      rfl
    · rw [value, value]

theorem roundReal_coheres (negative : Bool) (positive : 0 < x) :
    format.Coheres false fun mode => format.roundReal mode negative x where
  brackets := format.roundReal_brackets negative positive
  invalid mode mode' := by
    rw [(format.roundReal_noOther mode negative x).1, (format.roundReal_noOther mode' negative x).1]
  divideByZero mode mode' := by
    rw [(format.roundReal_noOther mode negative x).2.1,
      (format.roundReal_noOther mode' negative x).2.1]
  underflow mode mode' := by
    rw [Bool.eq_iff_iff, roundReal_underflow, roundReal_underflow]

variable {format}

theorem Brackets.weaken {pattern : Mode → ℕ} {inexact : Mode → Bool} (zeroSigns : Bool)
    (brackets : format.Brackets false pattern inexact) :
    format.Brackets zeroSigns pattern inexact := by
  cases brackets with
  | nan none => exact .nan none
  | exact exact same =>
    exact .exact exact fun mode mode' =>
      Or.inl ((same mode mode').resolve_right fun signs => Bool.false_ne_true signs.1)
  | apart inexact number next nearestEven nearestAway zero =>
    exact .apart inexact number next nearestEven nearestAway zero

theorem RunsCohere.weaken {run : Mode → Except Fault Rounded} (zeroSigns : Bool)
    (runs : format.RunsCohere false run) : format.RunsCohere zeroSigns run := by
  rcases runs with same | ⟨rounded, same, coheres⟩
  · exact Or.inl same
  · exact Or.inr ⟨rounded, same,
      { coheres with brackets := coheres.brackets.weaken zeroSigns }⟩

/-- One result for all modes that is not inexact. -/
theorem Brackets.const {zeroSigns : Bool} {pattern : ℕ} {inexact : Mode → Bool}
    (exact : ∀ mode, inexact mode = false) :
    format.Brackets zeroSigns (fun _ => pattern) inexact :=
  .exact exact fun _ _ => Or.inl rfl

/-- One result for all modes. -/
theorem RunsCohere.const {zeroSigns : Bool} {rounded : Rounded}
    (exact : rounded.flags.inexact = false) :
    format.RunsCohere zeroSigns fun _ => .ok rounded :=
  Or.inr ⟨fun _ => rounded, fun _ => rfl, .const fun _ => exact, fun _ _ => rfl, fun _ _ => rfl,
    fun _ _ => rfl⟩

theorem RunsCohere.error {zeroSigns : Bool} (fault : Fault) :
    format.RunsCohere zeroSigns fun _ => .error fault := Or.inl ⟨fault, fun _ => rfl⟩

/-- Raising exceptions besides. If they are inexact, the results must be so already. -/
theorem RunsCohere.raise {zeroSigns : Bool} {run : Mode → Except Fault Rounded}
    (runs : format.RunsCohere zeroSigns run) {flags : Flags}
    (raised : flags.inexact = true →
      ∀ mode rounded, run mode = .ok rounded → rounded.flags.inexact = true) :
    format.RunsCohere zeroSigns fun mode =>
      (run mode).map fun rounded => ⟨rounded.pattern, flags.union rounded.flags⟩ := by
  rcases runs with ⟨fault, same⟩ | ⟨rounded, same, coheres⟩
  · refine Or.inl ⟨fault, fun mode => ?_⟩
    dsimp only
    rw [same]
    rfl
  · refine Or.inr ⟨fun mode => ⟨(rounded mode).pattern, flags.union (rounded mode).flags⟩,
      fun mode => ?_, ?_, ?_, ?_, ?_⟩
    · dsimp only
      rw [same]
      rfl
    · have unchanged (mode : Mode) :
          (flags.union (rounded mode).flags).inexact = (rounded mode).flags.inexact := by
        change (flags.inexact || _) = _
        cases inexact : flags.inexact with
        | false => exact Bool.false_or _
        | true => rw [raised inexact mode _ (same mode), Bool.or_self]
      simp only [unchanged]
      exact coheres.brackets
    · intro mode mode'
      exact congrArg (flags.invalid || ·) (coheres.invalid mode mode')
    · intro mode mode'
      exact congrArg (flags.divideByZero || ·) (coheres.divideByZero mode mode')
    · intro mode mode'
      exact congrArg (flags.underflow || ·) (coheres.underflow mode mode')

variable (format)

/-- Rounding a significand in the six modes gives results that cohere, or the same refusal. -/
theorem round_runsCohere (negative : Bool) (significand : ℕ) (exponent : ℤ) (sticky : Bool) :
    format.RunsCohere false fun mode =>
      format.round mode negative significand exponent sticky := by
  unfold round
  dsimp only
  by_cases zero : significand = 0
  · simp only [if_pos zero]
    split
    · exact .error _
    · exact .const rfl
  · simp only [if_neg zero]
    obtain ⟨x, given⟩ := exists_standsFor significand exponent sticky
    have coheres := format.roundReal_coheres negative (given.pos zero)
    by_cases room : 0 < format.placeFor significand exponent - exponent
    · simp only [if_pos room, roundAt_eq _ negative given zero (Or.inl room)]
      cases checkLength (format.placeFor significand exponent - exponent).toNat with
      | error fault => exact .error fault
      | ok _ => exact Or.inr ⟨_, fun _ => rfl, coheres⟩
    · simp only [if_neg room]
      cases sticky with
      | true => exact .error _
      | false =>
        simp only [Bool.false_eq_true, if_false, roundAt_eq _ negative given zero (Or.inr rfl)]
        exact Or.inr ⟨_, fun _ => rfl, coheres⟩

theorem pack_inexact {mode : Mode} {negative : Bool} {result : Cut} {flags : Flags}
    (inexact : flags.inexact = true) :
    (format.pack mode negative result flags).flags.inexact = true := by
  unfold pack
  dsimp only
  split_ifs
  · exact inexact
  · rfl
  · exact inexact
  · exact inexact

/-- A sticky magnitude gives an inexact result. -/
theorem round_sticky_inexact {mode : Mode} {negative : Bool} {significand : ℕ} {exponent : ℤ}
    {rounded : Rounded}
    (ok : format.round mode negative significand exponent true = .ok rounded) :
    rounded.flags.inexact = true := by
  unfold round at ok
  split at ok
  · exact absurd ok nofun
  · dsimp only at ok
    split at ok
    · next room =>
      obtain ⟨-, -, rfl⟩ := map_eq_ok_iff.mp ok
      unfold roundAt
      dsimp only
      refine format.pack_inexact ?_
      rw [if_pos room]
      exact Bool.or_true _
    · exact absurd ok nofun

end LibmAudit.Format
