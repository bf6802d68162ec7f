/-
**Scaling by the machine and in exact arithmetic.**

The native library takes numbers apart and scales them by machine operations, with clamped powers.
The reference library does so on patterns, and rounds to nearest here.

* `Native.outputs_ilogb`, `outputs_significand`, `agrees_logb`: numbers that are taken apart.
* `Native.scale_clamped`: clamping the power does not change a scaled value.
* `Reference.IsBeyondStorage`: more bits are rounded off than memory holds.
  `Reference.ldexp_outcome`: otherwise the reference library scales as the machine does, which gives
  a zero there, by `scale_of_isBeyondStorage`.
* `Reference.scalb_outputs`: scaling by the power that another value stands for.
-/

import LibmAudit.Native.Library
import LibmAudit.Proofs.Literal.Range
import LibmAudit.Proofs.Reference.Parts
import LibmAudit.Proofs.Rounding.Saturation

namespace LibmAudit

attribute [local instance (high)] instPowNat

variable {format : Format} {pattern : ℕ}

/-! ## Agreement -/

/-- The same output, or two NaNs. -/
def SlotValue.Agrees (format : Format) (first second : SlotValue) : Prop :=
  first = second ∨ ∃ pattern other : ℕ, first = .float pattern ∧ second = .float other ∧
    format.isNaN pattern = true ∧ format.isNaN other = true

/-- The outputs agree one by one. -/
def Response.Agrees (format : Format) (first second : Response) : Prop :=
  List.Forall₂ (SlotValue.Agrees format) first.outputs second.outputs

theorem Response.agrees_of_outputs {first second : Response}
    (same : first.outputs = second.outputs) : first.Agrees format second := by
  unfold Agrees
  rw [same]
  exact List.forall₂_same.mpr fun _ _ => Or.inl rfl

/-! ## Taking numbers apart -/

namespace Native

theorem outputs_ilogb (fits : pattern < 2 ^ format.totalBits) :
    (Reference.ilogb format pattern).outputs = [.int (ilogb format pattern)] := by
  cases Reference.class_of_fits fits with
  | nan isNaN isInfinite parts =>
    simp [ilogb, Reference.ilogb, parts, isNaN, isInfinite]
  | infinite _ _ isNaN isInfinite parts =>
    simp [ilogb, Reference.ilogb, parts, isNaN, isInfinite]
  | zero _ _ isNaN isInfinite isZero parts =>
    simp [ilogb, Reference.ilogb, parts, isNaN, isInfinite, isZero]
  | finite _ _ _ _ _ isNaN isInfinite isZero parts =>
    simp [ilogb, Reference.ilogb, machineExponent, parts, isNaN, isInfinite, isZero]

/-- The machine scales a number by its own exponent. -/
theorem outputs_significand (fits : pattern < 2 ^ format.totalBits) :
    (Reference.significand format pattern).outputs = (significand format pattern).outputs := by
  cases Reference.class_of_fits fits with
  | nan isNaN _ parts =>
    simp [significand, Reference.significand, parts, isNaN, Response.ofPattern]
  | infinite _ _ _ isInfinite parts =>
    simp [significand, Reference.significand, parts, isInfinite, Response.ofPattern]
  | zero _ _ _ _ isZero parts =>
    simp [significand, Reference.significand, parts, isZero, Response.ofPattern]
  | finite _ _ _ _ _ isNaN isInfinite isZero parts =>
    simp [significand, Reference.significand, scale, ilogb, machineExponent, parts, isNaN,
      isInfinite, isZero, Response.ofPattern, sub_eq_add_neg]

/-- The machine hands a NaN on, which the reference library makes quiet. -/
theorem agrees_logb (fits : pattern < 2 ^ format.totalBits) :
    (Response.ofPattern (logb format pattern)).Agrees format (Reference.logb format pattern) := by
  cases Reference.class_of_fits fits with
  | nan isNaN _ parts =>
    have given : Response.ofPattern (logb format pattern) = .ofPattern pattern := by
      simp [logb, isNaN]
    have quiet : Reference.logb format pattern = .ofPattern (format.quietNaN false) := by
      simp [Reference.logb, parts, isNaN, Reference.nan]
    rw [given, quiet]
    exact .cons (Or.inr ⟨_, _, rfl, rfl, isNaN, format.isNaN_quietNaN false⟩) .nil
  | infinite negative same isNaN isInfinite parts =>
    refine Response.agrees_of_outputs ?_
    have magnitude : format.magnitudeField pattern = format.infinity false := by
      rw [(format.isInfinite_iff pattern).mp isInfinite]
      simp [Format.infinity, Format.infinityOrdinal, Format.signBit]
    simp [logb, Reference.logb, Native.magnitude, parts, isNaN, isInfinite, magnitude,
      Response.ofPattern]
  | zero _ _ isNaN isInfinite isZero parts =>
    refine Response.agrees_of_outputs ?_
    simp [logb, Reference.logb, parts, isNaN, isInfinite, isZero, Response.ofPattern]
  | finite _ _ _ _ _ isNaN isInfinite isZero parts =>
    refine Response.agrees_of_outputs ?_
    simp [logb, Reference.logb, machineExponent, parts, isNaN, isInfinite, isZero,
      Response.ofPattern]

/-! ## Scaling -/

/-- A power beyond the range of the format may be clamped to a limit that is beyond it too. -/
theorem scale_clamped (fits : pattern < 2 ^ format.totalBits) {limit : ℤ}
    (wide : 2 * format.emax + format.precision ≤ limit) (power : ℤ) :
    (scale format pattern (max (-limit) (min limit power))).outputs =
      (scale format pattern power).outputs := by
  cases Reference.class_of_fits fits with
  | nan _ _ parts | infinite _ _ _ _ parts | zero _ _ _ _ _ parts => simp [scale, parts]
  | finite negative _ positive finite _ _ _ _ parts =>
    have rounded := Format.roundExact_clamped .nearestEven negative positive finite wide power
    simp [scale, parts, Response.ofPattern, rounded]

theorem ldexp_outputs (fits : pattern < 2 ^ format.totalBits)
    (wide : 2 * format.emax + format.precision ≤ scaleLimit) (power : ℤ) :
    (ldexp format pattern power).outputs = (scale format pattern power).outputs :=
  scale_clamped fits wide power

end Native

namespace Reference

/-- A scaled value, not a zero, of which more bits are rounded off than memory holds. -/
def IsBeyondStorage (format : Format) (pattern : ℕ) (power : ℤ) : Prop :=
  ∃ parts, parts? format pattern = some parts ∧
    storageLimit ≤ format.placeFor parts.significand (parts.exponent + power) -
      (parts.exponent + power)

theorem significand_ne_zero_of_parts? {parts : Parts}
    (given : parts? format pattern = some parts) : parts.significand ≠ 0 := by
  unfold parts? at given
  split at given
  · split at given
    · exact absurd given nofun
    · next nonzero =>
      rw [← Option.some.inj given]
      exact Int.natAbs_ne_zero.mpr nonzero
  · exact absurd given nofun

/-- The reference library scales as the machine does, with any power, unless more bits are rounded
off than memory holds. -/
theorem ldexp_outcome (format : Format) (pattern : ℕ) (power : ℤ) :
    match ldexp format .nearestEven pattern power with
    | .ok response => response.outputs = (Native.scale format pattern power).outputs ∧
        ¬ IsBeyondStorage format pattern power
    | .error fault => (fault = .shiftTooWide ∨ fault = .outOfMemory) ∧
        IsBeyondStorage format pattern power := by
  unfold ldexp Native.scale IsBeyondStorage
  cases given : parts? format pattern with
  | none => simp [Response.ofPattern]
  | some parts =>
    have nonzero := significand_ne_zero_of_parts? given
    have outcome := format.round_outcome .nearestEven parts.negative parts.significand
      (parts.exponent + power)
    have exact := format.roundExact_isRounding .nearestEven parts.negative parts.significand
      (parts.exponent + power)
    dsimp only
    cases rounded : format.round .nearestEven parts.negative parts.significand
        (parts.exponent + power) false with
    | ok result =>
      rw [rounded] at outcome
      obtain ⟨rounding, short⟩ := outcome
      obtain rfl := rounding.unique exact
      refine ⟨rfl, ?_⟩
      rintro ⟨_, ⟨⟩, long⟩
      exact absurd long (not_le.mpr (short.resolve_left nonzero))
    | error fault =>
      rw [rounded] at outcome
      obtain ⟨refused, -, long⟩ := outcome
      exact ⟨refused, parts, rfl, long⟩

/-- Clamped powers do not lead that far below the format. -/
theorem not_isBeyondStorage (fits : pattern < 2 ^ format.totalBits)
    (ranged : format.emax + format.fractionBits < exponentLimit) {power : ℤ}
    (clamped : -scaleLimit format ≤ power) : ¬ IsBeyondStorage format pattern power := by
  rintro ⟨parts, given, long⟩
  cases class_of_fits fits with
  | nan _ _ none | infinite _ _ _ _ none | zero _ _ _ _ _ none =>
    rw [none] at given
    exact absurd given nofun
  | finite _ ordinal _ _ _ _ _ _ some =>
    rw [some] at given
    obtain rfl := Option.some.inj given
    have short := bitLength_le_iff.mpr (format.significandAt_lt ordinal)
    have lowest := format.lowestPlace_le_placeAt ordinal
    have width := format.fractionBits_add_one
    have limit := storageLimit_eq
    unfold exponentLimit at ranged
    unfold scaleLimit Format.floorExponent Format.emin at clamped
    unfold Format.lowestPlace Format.emin at lowest
    unfold Format.placeFor Format.leadingExponent Format.emin at long
    dsimp only at long
    omega

/-- Where the bits are too many, the machine gives a zero. -/
theorem scale_of_isBeyondStorage (fits : pattern < 2 ^ format.totalBits)
    (ranged : format.emax + format.fractionBits < exponentLimit) {power : ℤ}
    (beyond : IsBeyondStorage format pattern power) :
    (Native.scale format pattern power).outputs =
      [.float (format.zero (format.isNegative pattern))] := by
  obtain ⟨parts, given, long⟩ := beyond
  cases class_of_fits fits with
  | nan _ _ none | infinite _ _ _ _ none | zero _ _ _ _ _ none =>
    rw [none] at given
    exact absurd given nofun
  | finite negative ordinal positive finite same _ _ _ some =>
    rw [some] at given
    obtain rfl := Option.some.inj given
    have short := bitLength_le_iff.mpr (format.significandAt_lt ordinal)
    have width := format.fractionBits_add_one
    have far : format.placeAt ordinal + power + format.precision ≤ format.lowestPlace - 1 := by
      unfold exponentLimit at ranged
      unfold Format.placeFor Format.leadingExponent at long
      unfold Format.lowestPlace
      have range := format.one_le_emax
      have limit := storageLimit_eq
      dsimp only at long
      omega
    have small : (format.significandAt ordinal * 2 ^ (format.placeAt ordinal + power) : ℝ) <
        2 ^ (format.lowestPlace - 1) := by
      have bits : (format.significandAt ordinal : ℝ) < 2 ^ format.precision := by
        exact_mod_cast format.significandAt_lt ordinal
      calc (format.significandAt ordinal * 2 ^ (format.placeAt ordinal + power) : ℝ)
          < 2 ^ format.precision * 2 ^ (format.placeAt ordinal + power) :=
            mul_lt_mul_of_pos_right bits (by positivity)
        _ = 2 ^ (format.placeAt ordinal + power + format.precision) := by
            rw [zpow_add₀ two_ne_zero (_ + _), zpow_natCast, mul_comm]
        _ ≤ 2 ^ (format.lowestPlace - 1) := zpow_le_zpow_right₀ one_le_two far
    have sign := format.isNegative_signBit_add negative (finite.trans format.infinityOrdinal_lt)
    have rounded := Format.roundExact_of_small negative
      (Format.significand_ne_zero positive rfl) small
    rw [← same] at sign
    simp [Native.scale, some, sign, rounded, Response.ofPattern]

theorem le_scaleLimit (format : Format) :
    2 * format.emax + format.precision ≤ scaleLimit format := by
  have range := format.one_le_emax
  unfold scaleLimit Format.floorExponent Format.emin
  omega

/-- Scaling by the power that another value stands for ends with the machine's value. -/
theorem scalb_outputs {second : ℕ} (fits : pattern < 2 ^ format.totalBits)
    (ranged : format.emax + format.fractionBits < exponentLimit)
    (wide : 2 * format.emax + format.precision ≤ Native.scaleLimit) :
    ∃ response, scalb format .nearestEven pattern second = .ok response ∧
      response.outputs = (Native.scalb format pattern second).outputs := by
  unfold scalb Native.scalb
  dsimp only
  by_cases nan : format.isNaN pattern = true ∨ format.isNaN second = true
  · rw [if_pos nan, if_pos nan]
    exact ⟨_, rfl, rfl⟩
  rw [if_neg nan, if_neg nan]
  by_cases infinite : format.isInfinite second = true
  · rw [if_pos infinite, if_pos infinite]
    cases format.isNegative second <;> cases format.isInfinite pattern <;>
      cases format.isZero pattern <;> exact ⟨_, rfl, rfl⟩
  rw [if_neg infinite, if_neg infinite]
  cases integer? format second with
  | none => exact ⟨_, rfl, rfl⟩
  | some power =>
    have limit := le_scaleLimit format
    have clamped : -scaleLimit format ≤ max (-scaleLimit format) (min (scaleLimit format) power) :=
      le_max_left _ _
    have scaled : (Native.ldexp format pattern (Native.clampScale power)).outputs =
        (Native.scale format pattern
          (max (-scaleLimit format) (min (scaleLimit format) power))).outputs := by
      rw [Native.ldexp_outputs fits wide, Native.scale_clamped fits limit]
      exact Native.scale_clamped fits wide power
    have outcome := ldexp_outcome format pattern
      (max (-scaleLimit format) (min (scaleLimit format) power))
    dsimp only
    cases given : ldexp format .nearestEven pattern
        (max (-scaleLimit format) (min (scaleLimit format) power)) with
    | ok response =>
      rw [given] at outcome
      exact ⟨response, rfl, outcome.1.trans scaled.symm⟩
    | error fault =>
      rw [given] at outcome
      exact absurd outcome.2 (not_isBeyondStorage fits ranged clamped)

end Reference

/-- The native library's limit is beyond the range of all machine types. -/
theorem Carrier.le_scaleLimit (carrier : Carrier) :
    2 * carrier.format.emax + carrier.format.precision ≤ Native.scaleLimit := by
  cases carrier <;> decide

end LibmAudit
