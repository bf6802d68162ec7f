/-
**Exact routines in the six modes.**

The routines that take numbers apart, round them to integers or divide them with remainder give
values of the format. No mode changes these, and they raise none of the exceptions of rounding.

* `Outcome.IsValue`: an outcome that is a value of the format. `Operation.evaluateInto_exact`: it is
  rounded to that value in every mode.
* `Number.remainderBy_isValue`: remainders are such outcomes, whichever way the quotient is rounded.
* `Reference.call_exact`: the exact routines that the mode is not meant to matter to.
-/

import LibmAudit.Proofs.Reference.Action
import LibmAudit.Proofs.Remainder.Correct

namespace LibmAudit

attribute [local instance (high)] instPowNat

variable {format : Format}

/-- The exceptions of results that have to be rounded are not among them. -/
structure Flags.IsExact (flags : Flags) : Prop where
  inexact : flags.inexact = false
  underflow : flags.underflow = false
  overflow : flags.overflow = false

theorem Flags.isExact_none : Flags.none.IsExact := ⟨rfl, rfl, rfl⟩

/-! ## Values of the format -/

/-- The outcome is a NaN, a zero or another finite value of the format. -/
inductive Outcome.IsValue (format : Format) : Outcome → Prop
  | nan : IsValue format .nan
  | zero (negative : Bool) : IsValue format (.zero negative)
  | magnitude (negative : Bool) {ordinal : ℕ} (positive : 0 < ordinal)
      (finite : ordinal < format.infinityOrdinal) {outcome : Outcome}
      (value : outcome.HasValue (signed negative (format.magnitudeAt ordinal))) :
      IsValue format outcome

namespace Outcome

/-- A remainder in units of the lowest place. -/
theorem IsValue.of_rest {outcome : Outcome} {negative : Bool} {rest : ℤ}
    (holds : format.Holds rest)
    (division : (rest = 0 ∧ outcome = .zero negative) ∨
      (rest ≠ 0 ∧ outcome.HasValue (signed negative (rest * 2 ^ format.lowestPlace)))) :
    outcome.IsValue format := by
  obtain ⟨ordinal, finite, same⟩ := holds
  rcases division with ⟨rfl, rfl⟩ | ⟨nonzero, value⟩
  · exact .zero negative
  · have positive : 0 < ordinal := by
      rwa [← format.unitsAt_pos_iff, same, Int.natAbs_pos]
    rw [Format.signed_units same] at value
    exact .magnitude _ positive finite value

/-- A value of the format becomes a number without an error, and then one pattern in every mode. -/
theorem IsValue.round {outcome : Outcome}
    (ranged : format.emax + format.fractionBits < exponentLimit)
    (isValue : outcome.IsValue format) :
    ∃ number flags pattern,
      outcome.round (format.precision + 2) .towardZero = ⟨number, 0, flags⟩ ∧ flags.IsExact ∧
        ∀ mode, number.toPattern format mode false (format.precision + 2) =
          .ok ⟨pattern, .none⟩ := by
  cases isValue with
  | nan => exact ⟨_, _, _, rfl, ⟨rfl, rfl, rfl⟩, fun _ => rfl⟩
  | zero negative => exact ⟨_, _, _, rfl, Flags.isExact_none, fun _ => rfl⟩
  | magnitude negative positive finite value =>
    obtain ⟨number, rounded, -, magnitude⟩ :=
      round_of_hasValue .towardZero ranged positive finite value
    exact ⟨_, _, _, rounded, Flags.isExact_none, fun mode =>
      Number.toPattern_of_magnitude mode _ ranged positive finite magnitude⟩

end Outcome

/-! ## Operations with an exact outcome -/

theorem Operation.evaluateInto_exact {operation : Operation} {patterns : List ℕ}
    (ranged : format.emax + format.fractionBits < exponentLimit)
    (fits : ∀ pattern ∈ patterns, pattern < 2 ^ format.totalBits)
    (count : patterns.length = operation.arity)
    (isValue : (operation.apply
      (patterns.map fun pattern : ℕ => Number.read format pattern)).IsValue format) :
    ∃ rounded, (∀ mode, operation.evaluateInto format mode false patterns = .ok rounded) ∧
      rounded.flags.IsExact := by
  obtain ⟨number, flags, pattern, evaluated, exact, back⟩ := isValue.round ranged
  refine ⟨⟨pattern, flags.union .none⟩, fun mode => ?_, by rwa [Flags.union_none]⟩
  rw [evaluateInto_eq, evaluateOn_of_fits ranged fits count, evaluated]
  change finish format mode _ = _
  rw [finish_eq_map, bne_self_eq_false, back]
  rfl

/-! ## Remainders -/

/-- The rest of a division to nearest even is a value of the format. -/
theorem NearestDivision.holds {dividend divisor quotient : ℕ} {rest : ℤ}
    (finite' : divisor < format.infinityOrdinal) (positive : 0 < divisor)
    (division : NearestDivision (format.unitsAt dividend) (format.unitsAt divisor) quotient rest) :
    format.Holds rest := by
  have units := format.unitsAt_pos_iff.mpr positive
  have below := Nat.mod_lt (format.unitsAt dividend) units
  have small := format.unitsAt_strictMono finite'
  have grid : format.OnGrid (format.unitsAt dividend % format.unitsAt divisor) :=
    Format.OnGrid.mod ⟨dividend, rfl⟩ ⟨divisor, rfl⟩
  have cut := of_mod (format.unitsAt dividend) units
  split at cut
  · next up =>
    -- Rounded up, the divisor is at most twice what the cut quotient leaves.
    obtain ⟨-, rfl⟩ := division.unique cut units
    have size : (((format.unitsAt dividend % format.unitsAt divisor : ℕ) : ℤ) -
        format.unitsAt divisor).natAbs =
          format.unitsAt divisor - format.unitsAt dividend % format.unitsAt divisor := by
      omega
    refine Format.OnGrid.holds ?_ (by omega)
    rw [size]
    exact Format.OnGrid.sub ⟨divisor, rfl⟩ grid below.le (by omega)
  · obtain ⟨-, rfl⟩ := division.unique cut units
    exact Format.OnGrid.holds grid (by omega)

namespace Number

/-- Remainders are values of the format if the rests of the divisions are. -/
theorem remainderBy_isValue {divide : Dyadic → Dyadic → Division}
    (exact : ∀ (negative negative' : Bool) {dividend divisor : ℕ},
      dividend < format.infinityOrdinal → divisor < format.infinityOrdinal → 0 < divisor →
        ∃ rest : ℤ, format.Holds rest ∧
          ((divide (format.dyadicAt negative dividend)
              (format.dyadicAt negative' divisor)).remainder : ℝ) *
            2 ^ (divide (format.dyadicAt negative dividend)
              (format.dyadicAt negative' divisor)).place = rest * 2 ^ format.lowestPlace)
    {first second : ℕ} (fits : first < 2 ^ format.totalBits)
    (fits' : second < 2 ^ format.totalBits) :
    (remainderBy divide (read format first) (read format second)).IsValue format := by
  rcases read_cases fits with nan | ⟨_, infinite⟩ | ⟨negative, zero⟩ |
    ⟨negative, dividend, positive, finite, -, number⟩
  · rw [nan]
    exact .nan
  · rw [infinite]
    cases read format second <;> exact .nan
  · rw [zero]
    cases read format second with
    | nan | zero => exact .nan
    | infinity | finite => exact .zero negative
  · rw [number]
    rcases read_cases fits' with nan | ⟨_, infinite⟩ | ⟨_, zero⟩ |
      ⟨negative', divisor, positive', finite', -, number'⟩
    · rw [nan]
      exact .nan
    · rw [infinite]
      exact .magnitude negative positive finite
        ⟨_, rfl, format.dyadicAt_significand negative positive, rfl⟩
    · rw [zero]
      exact .nan
    · rw [number']
      obtain ⟨rest, holds, units⟩ := exact negative negative' finite finite' positive'
      exact .of_rest holds (Division.outcome_eq format negative units)

theorem fmod_isValue {first second : ℕ} (fits : first < 2 ^ format.totalBits)
    (fits' : second < 2 ^ format.totalBits) :
    ((read format first).fmod (read format second)).IsValue format := by
  refine remainderBy_isValue (fun negative negative' dividend divisor finite _ _ => ?_)
    fits fits'
  have grid : format.OnGrid (format.unitsAt dividend % format.unitsAt divisor) :=
    Format.OnGrid.mod ⟨dividend, rfl⟩ ⟨divisor, rfl⟩
  have small := format.unitsAt_strictMono finite
  have le := Nat.mod_le (format.unitsAt dividend) (format.unitsAt divisor)
  have holds : format.Holds (format.unitsAt dividend % format.unitsAt divisor : ℕ) :=
    Format.OnGrid.holds grid (by omega)
  refine ⟨_, holds, ?_⟩
  exact_mod_cast Division.truncated_units format negative negative' dividend divisor

theorem remainder_isValue {first second : ℕ} (fits : first < 2 ^ format.totalBits)
    (fits' : second < 2 ^ format.totalBits) :
    ((read format first).remainder (read format second)).IsValue format := by
  refine remainderBy_isValue (fun negative negative' dividend divisor _ finite' positive => ?_)
    fits fits'
  obtain ⟨rest, units, division⟩ :=
    Division.nearest_units format negative negative' dividend positive
  exact ⟨rest, division.holds finite' positive, units⟩

end Number

/-! ## Routines -/

namespace Reference

variable {routine : Routine} {operands : List SlotValue}

/-- A call that the mode does not matter to, with none of the exceptions of rounding if `quiet`. -/
def IsFixed (quiet : Prop) (call : Mode → Except Fault Response) : Prop :=
  ∃ response, (∀ mode, call mode = .ok response) ∧ (quiet → response.flags.IsExact)

variable {quiet : Prop}

theorem isFixed_ok {response : Response} (exact : quiet → response.flags.IsExact) :
    IsFixed quiet fun _ => .ok response :=
  ⟨response, fun _ => rfl, exact⟩

theorem isFixed_none {response : Response} (none : response.flags = .none) :
    IsFixed quiet fun _ => .ok response :=
  isFixed_ok fun _ => none ▸ Flags.isExact_none

theorem operation_isFixed {operator : Operation}
    (ranged : format.emax + format.fractionBits < exponentLimit)
    {patterns : List ℕ} (fits : ∀ pattern ∈ patterns, pattern < 2 ^ format.totalBits)
    (count : patterns.length = operator.arity)
    (isValue : (operator.apply
      (patterns.map fun pattern : ℕ => Number.read format pattern)).IsValue format) :
    IsFixed quiet fun mode => operation operator format mode patterns := by
  unfold operation operationPattern
  split
  · exact isFixed_none rfl
  · obtain ⟨rounded, same, exact⟩ := Operation.evaluateInto_exact ranged fits count isValue
    exact ⟨.ofRounded rounded, fun mode => congrArg (Except.map _) (same mode), fun _ => exact⟩

theorem ilogb_flags (pattern : ℕ) : (ilogb format pattern).flags.IsExact := by
  unfold ilogb
  split <;> exact ⟨rfl, rfl, rfl⟩

theorem logb_flags (pattern : ℕ) : (logb format pattern).flags.IsExact := by
  unfold logb
  split
  · exact ⟨rfl, rfl, rfl⟩
  · split_ifs <;> exact ⟨rfl, rfl, rfl⟩

theorem modf_flags (pattern : ℕ) : (modf format pattern).flags = .none := by
  unfold modf
  dsimp only
  split_ifs <;> rfl

theorem frexp_flags (pattern : ℕ) : (frexp format pattern).flags = .none := by
  unfold frexp
  split <;> rfl

theorem significand_flags (pattern : ℕ) : (significand format pattern).flags = .none := by
  unfold significand
  split <;> rfl

theorem callUnary_isFixed (inputs : routine.shape.inputs = [.float])
    (none : operation? routine = none) (category : routine.category = .exact)
    (fixed : routine.isModeSensitive = false) (pattern : ℕ) :
    IsFixed quiet fun mode => callUnary routine format mode pattern := by
  cases routine <;> try first
    | exact absurd inputs (by decide) | exact absurd none (by decide)
    | exact absurd category (by decide) | exact absurd fixed (by decide)
  case fabs | ceil | floor | trunc | round => exact isFixed_none rfl
  case modf => exact isFixed_none (modf_flags pattern)
  case frexp => exact isFixed_none (frexp_flags pattern)
  case significand => exact isFixed_none (significand_flags pattern)
  case logb => exact isFixed_ok fun _ => logb_flags pattern
  case ilogb => exact isFixed_ok fun _ => ilogb_flags pattern

/-- The rest is found in every mode, with the quotient or without it. -/
theorem remquo_isFixed (ranged : format.emax + format.fractionBits < exponentLimit)
    {first second : ℕ} (fits : first < 2 ^ format.totalBits)
    (fits' : second < 2 ^ format.totalBits) :
    IsFixed quiet fun _ => remquo format first second := by
  unfold remquo
  split
  · exact isFixed_none rfl
  · obtain ⟨number, flags, pattern, evaluated, exact, back⟩ :=
      (Number.remainder_isValue fits fits').round ranged
    rw [Number.ofPattern_of_fits ranged fits, Number.ofPattern_of_fits ranged fits']
    simp only [bind, Except.bind, evaluated]
    cases number with
    | nan => exact isFixed_ok fun _ => ⟨by simp [Flags.union, invalid, exact.inexact],
        by simp [Flags.union, invalid, exact.underflow],
        by simp [Flags.union, invalid, exact.overflow]⟩
    | infinity | zero | finite =>
      simp only [back]
      exact isFixed_ok fun _ => by rwa [Flags.union_none]

theorem callBinary_isFixed (ranged : format.emax + format.fractionBits < exponentLimit)
    (inputs : routine.shape.inputs = [.float, .float]) (none : operation? routine = none)
    (category : routine.category = .exact) (fixed : routine.isModeSensitive = false)
    {first second : ℕ} (fits : first < 2 ^ format.totalBits)
    (fits' : second < 2 ^ format.totalBits) :
    IsFixed (routine ≠ .nextafter) fun mode => callBinary routine format mode first second := by
  cases routine <;> try first
    | exact absurd inputs (by decide) | exact absurd none (by decide)
    | exact absurd category (by decide) | exact absurd fixed (by decide)
  case copysign => exact isFixed_none rfl
  case fmax | fmin => exact isFixed_none (extremum_flags _ _ _)
  case nextafter => exact isFixed_ok fun other => absurd rfl other
  case remquo => exact remquo_isFixed ranged fits fits'

/-- Only remainders are exact as multiprecision operations. -/
theorem eq_of_operates (operates : (operation? routine).isSome = true)
    (category : routine.category = .exact) (fixed : routine.isModeSensitive = false) :
    routine = .fmod ∨ routine = .remainder := by
  cases routine <;> first
    | exact Or.inl rfl | exact Or.inr rfl | exact absurd operates (by decide)
    | exact absurd category (by decide) | exact absurd fixed (by decide)

/-- Operands of the exact routines are one float or two. -/
theorem inputs_of_fixed (category : routine.category = .exact)
    (fixed : routine.isModeSensitive = false) :
    routine.shape.inputs = [.float] ∨ routine.shape.inputs = [.float, .float] := by
  cases routine <;> first
    | exact Or.inl rfl | exact Or.inr rfl
    | exact absurd category (by decide) | exact absurd fixed (by decide)

/-- **Exact routines do not look at the mode.** The exact routines that are not marked as depending
on the mode end in every mode with the same outputs and the same exceptions. Except for the step to
a neighbour, they are never inexact and tell neither underflow nor overflow. -/
theorem call_exact {carrier : Carrier} (stored : format.carrier? = some carrier)
    (category : routine.category = .exact) (fixed : routine.isModeSensitive = false)
    (fills : Fills format routine.shape.inputs operands) :
    ∃ response, (∀ mode, LibraryKind.reference.call routine format mode operands = .ok response) ∧
      (routine ≠ .nextafter → response.flags.IsExact) := by
  obtain rfl := Format.format_of_carrier? stored
  have kinds := fills.kinds
  have called (mode : Mode) :
      LibraryKind.reference.call routine carrier.format mode operands =
        call routine carrier.format mode operands :=
    LibraryKind.call_reference kinds mode
  simp only [called]
  have fits (pattern : ℕ) (given : .float pattern ∈ operands) := fills.float_lt given
  cases operates : operation? routine with
  | some operator =>
    have two : routine.shape.inputs = [.float, .float] := by
      rcases eq_of_operates (operates ▸ rfl) category fixed with rfl | rfl <;> rfl
    obtain ⟨first, second, rfl⟩ := SlotValue.eq_floats_of_slots (kinds.trans two)
    have patterns : ∀ pattern ∈ [first, second], pattern < 2 ^ carrier.format.totalBits := by
      simp [fits first (by simp), fits second (by simp)]
    rcases eq_of_operates (operates ▸ rfl) category fixed with rfl | rfl
    · exact operation_isFixed carrier.ranged patterns rfl
        (Number.fmod_isValue (fits first (by simp)) (fits second (by simp)))
    · exact operation_isFixed carrier.ranged patterns rfl
        (Number.remainder_isValue (fits first (by simp)) (fits second (by simp)))
  | none =>
    rcases inputs_of_fixed category fixed with one | two
    · obtain ⟨pattern, rfl⟩ := SlotValue.eq_float_of_slots (kinds.trans one)
      simp only [call, operates]
      exact callUnary_isFixed one operates category fixed pattern
    · obtain ⟨first, second, rfl⟩ := SlotValue.eq_floats_of_slots (kinds.trans two)
      simp only [call, operates]
      exact callBinary_isFixed carrier.ranged two operates category fixed
        (fits first (by simp)) (fits second (by simp))

/-- The remainder of the lowest value of sixteen bits by seven times the least one. The quotient is
rounded down, so that the remainder is above zero. -/
theorem call_exact_remainder :
    Format.half.carrier? = some .half ∧ Routine.category .remainder = .exact ∧
      Routine.isModeSensitive .remainder = false ∧
      Fills .half (Routine.shape .remainder).inputs [.float 0xfbff, .float 7] ∧
      ∀ mode, LibraryKind.reference.call .remainder .half mode [.float 0xfbff, .float 7] =
        .ok ⟨[.float 2], .none⟩ := by
  have stored : Format.half.carrier? = some .half := by decide
  have fills : Fills .half (Routine.shape .remainder).inputs [.float 0xfbff, .float 7] :=
    ⟨rfl, by simp [SlotValue.Fits]; decide⟩
  refine ⟨stored, rfl, rfl, fills, ?_⟩
  obtain ⟨response, same, -⟩ := call_exact stored rfl rfl fills
  have given : LibraryKind.reference.call .remainder .half .up [.float 0xfbff, .float 7] =
      .ok ⟨[.float 2], .none⟩ := rfl
  intro mode
  rw [same, ← same .up, given]

end Reference

end LibmAudit
