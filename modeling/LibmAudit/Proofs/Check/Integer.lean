/-
**Integer outputs.**

What a function under test returns for an integer output need not be an integer. A number of a
machine type is read in the 64-bit format first, which loses nothing of the narrower types, but
rounds the extended type.

* `Format.exists_scaled?`: the significand and the place that make up a value.
* `Reference.integer?_eq_some_iff`: the integer that a pattern stands for.
* `Carrier.convertOnce_isRounding`: between machine types a finite value is rounded correctly.
* `Format.Widens`: one format has the values of another one. `Carrier.valueOf_convert_double`: a
  value that the 64-bit format has is converted to itself.
* `Value.exactReal?`: the exact value of a number. `Value.IsReadExactly`: the 64-bit format has it.
* `toInteger?_spec`: the integer that is read is the exact value, or that of the 64-bit format for
  the extended type.
-/

import LibmAudit.Proofs.Check.Completion
import LibmAudit.Proofs.Order.Finite
import LibmAudit.Proofs.Reference.Parts
import LibmAudit.Proofs.Remainder.Grid

namespace LibmAudit

attribute [local instance (high)] instPowNat

/-! ## Integers -/

/-- When a significand at a place is an integer. -/
theorem dyadic_eq_intCast_iff (significand exponent value : ℤ) :
    (significand * 2 ^ exponent : ℝ) = value ↔
      (0 ≤ exponent ∧ significand * (2 ^ exponent.toNat : ℕ) = value) ∨
      (exponent < 0 ∧ significand % (2 ^ (-exponent).toNat : ℕ) = 0 ∧
        significand / (2 ^ (-exponent).toNat : ℕ) = value) := by
  rcases le_or_gt 0 exponent with nonneg | negative
  · obtain ⟨places, rfl⟩ := Int.eq_ofNat_of_zero_le nonneg
    rw [or_iff_left fun below => absurd nonneg (not_le.mpr below.1), and_iff_right nonneg,
      Int.toNat_natCast, zpow_natCast]
    constructor
    · intro same
      exact_mod_cast same
    · intro same
      rw [← same]
      push_cast
      rfl
  · have unit : (2 : ℝ) ^ exponent * ((2 ^ (-exponent).toNat : ℕ) : ℤ) = 1 := by
      have places : ((-exponent).toNat : ℤ) = -exponent := Int.toNat_of_nonneg (by omega)
      push_cast
      rw [← zpow_natCast, places, ← zpow_add₀ two_ne_zero, add_neg_cancel, zpow_zero]
    have positive : (0 : ℤ) < (2 ^ (-exponent).toNat : ℕ) := by positivity
    rw [or_iff_right fun above => absurd above.1 (not_le.mpr negative), and_iff_right negative]
    generalize ((2 ^ (-exponent).toNat : ℕ) : ℤ) = divisor at unit positive
    have nonzero : (divisor : ℝ) ≠ 0 := by exact_mod_cast positive.ne'
    have scaled : (significand * 2 ^ exponent : ℝ) = value ↔ significand = value * divisor := by
      rw [← mul_left_inj' nonzero, mul_assoc, unit, mul_one]
      exact_mod_cast Iff.rfl
    rw [scaled, ← Int.dvd_iff_emod_eq_zero]
    constructor
    · rintro rfl
      exact ⟨dvd_mul_left _ _, Int.mul_ediv_cancel _ positive.ne'⟩
    · rintro ⟨divides, rfl⟩
      exact (Int.ediv_mul_cancel divides).symm

/-- The significand and the place of a finite pattern make up its value. -/
theorem Format.exists_scaled? (format : Format) {pattern : ℤ}
    (finite : format.isFinite pattern = true) :
    ∃ significand place : ℤ, format.scaled? pattern = some (significand, place) ∧
      format.realOf pattern = significand * 2 ^ place := by
  have real := format.scaledValue_of_finite finite
  unfold scaledValue at real
  cases scaled : format.scaled? pattern with
  | none =>
    rw [scaled] at real
    cases sign : format.isNegative pattern <;> rw [sign] at real
    · exact absurd real.symm (EReal.coe_ne_top _)
    · exact absurd real.symm (EReal.coe_ne_bot _)
  | some pair =>
    obtain ⟨significand, place⟩ := pair
    rw [scaled, EReal.coe_eq_coe_iff] at real
    exact ⟨significand, place, rfl, real.symm⟩

theorem Format.realOf_of_scaled? (format : Format) {pattern significand place : ℤ}
    (scaled : format.scaled? pattern = some (significand, place)) :
    format.realOf pattern = significand * 2 ^ place := by
  have finite : format.isFinite pattern = true := by
    by_contra special
    rw [format.scaled?_of_not_finite (Bool.eq_false_iff.mpr special)] at scaled
    exact nomatch scaled
  obtain ⟨_, _, same, real⟩ := format.exists_scaled? finite
  rw [scaled, Option.some.injEq, Prod.mk.injEq] at same
  rw [real, same.1, same.2]

/-- A pattern stands for an integer if it has the value of that integer. -/
theorem Reference.integer?_eq_some_iff (format : Format) {pattern : ℕ} (value : ℤ) :
    Reference.integer? format pattern = some value ↔
      format.isFinite pattern = true ∧ format.realOf pattern = value := by
  unfold integer?
  cases finite : format.isFinite pattern with
  | false =>
    rw [format.scaled?_of_not_finite finite]
    exact iff_of_false nofun fun both => Bool.false_ne_true both.1
  | true =>
    obtain ⟨significand, exponent, scaled, real⟩ := format.exists_scaled? finite
    rw [scaled, and_iff_right rfl, real, dyadic_eq_intCast_iff]
    dsimp only
    split
    · next nonneg =>
      rw [or_iff_left fun below => absurd nonneg (not_le.mpr below.1), and_iff_right nonneg,
        Option.some.injEq]
    · next negative =>
      rw [or_iff_right fun above => absurd above.1 negative, and_iff_right (not_le.mp negative)]
      split
      · next divides => rw [and_iff_right divides, Option.some.injEq]
      · next divides => exact iff_of_false nofun fun both => divides both.1

/-! ## Between machine types -/

namespace Format

/-- No NaN and no infinity is finite. -/
theorem isFinite_infinity_add (format : Format) (negative : Bool) {fraction : ℕ}
    (small : fraction < 2 ^ format.fractionBits) :
    format.isFinite (format.infinity negative + fraction : ℕ) = false := by
  have room := format.infinityOrdinal_add
  have pattern : format.infinity negative + fraction =
      format.signBit negative + (format.infinityOrdinal + fraction) := Nat.add_assoc ..
  rw [Bool.eq_false_iff, Ne, isFinite_iff, pattern,
    format.magnitudeField_signBit_add negative (by omega)]
  omega

/-- Whatever a format stores a wider one stores as well: it keeps as many bits, and its exponents
begin no later and end no earlier. -/
structure Widens (wide narrow : Format) : Prop where
  precision : narrow.precision ≤ wide.precision
  lowestPlace : wide.lowestPlace ≤ narrow.lowestPlace
  emax : narrow.emax ≤ wide.emax

/-- The finite magnitudes of a format are magnitudes of a wider one. -/
theorem Widens.exists_magnitudeAt {wide narrow : Format} (widens : wide.Widens narrow)
    {ordinal : ℕ} (finite : ordinal < narrow.infinityOrdinal) :
    ∃ number < wide.infinityOrdinal, wide.magnitudeAt number = narrow.magnitudeAt ordinal := by
  have small : narrow.significandAt ordinal ≤ 2 ^ wide.precision :=
    (narrow.significandAt_lt ordinal).le.trans (Nat.pow_le_pow_right two_pos widens.precision)
  obtain ⟨index, place⟩ : ∃ index : ℕ, narrow.placeAt ordinal = wide.lowestPlace + index := by
    have := narrow.lowestPlace_le_placeAt ordinal
    have := widens.lowestPlace
    exact ⟨(narrow.placeAt ordinal - wide.lowestPlace).toNat, by omega⟩
  obtain ⟨number, units⟩ := wide.onGrid_mul_two_pow small index
  have same : wide.magnitudeAt number = narrow.magnitudeAt ordinal := by
    rw [magnitudeAt_eq_unitsAt, units, magnitudeAt, place, zpow_add₀ two_ne_zero, zpow_natCast]
    push_cast
    ring
  refine ⟨number, ?_, same⟩
  have below := narrow.magnitudeAt_strictMono finite
  rw [narrow.magnitudeAt_infinityOrdinal, ← same] at below
  rw [← wide.magnitudeAt_strictMono.lt_iff_lt, wide.magnitudeAt_infinityOrdinal]
  refine below.trans_le (zpow_le_zpow_right₀ one_le_two ?_)
  have := widens.emax
  omega

/-- So its values are values of the wider one. -/
theorem Widens.valueOf_mem {wide narrow : Format} (widens : wide.Widens narrow) {pattern : ℤ}
    (finite : narrow.isFinite pattern = true) : narrow.valueOf pattern ∈ wide.values := by
  rw [isFinite_iff] at finite
  obtain ⟨number, inside, same⟩ := widens.exists_magnitudeAt finite
  refine (wide.mem_values_iff _).mpr ⟨narrow.isNegative pattern, number, inside.le, ?_⟩
  rw [narrow.valueOf_of_finite ((narrow.isFinite_iff pattern).mpr finite), realOf, magnitudeOf_eq,
    ← same, wide.extendedAt_of_lt inside]
  cases narrow.isNegative pattern <;> rfl

/-- What is a value of the format is rounded to itself. -/
theorem IsRounding.valueOf_eq {format : Format} {mode : Mode} {negative : Bool} {x : ℝ}
    {result : Rounded} (rounding : format.IsRounding mode negative x result) (nonneg : 0 ≤ x)
    (member : ((signed negative x : ℝ) : EReal) ∈ format.values) :
    format.valueOf result.pattern = (signed negative x : ℝ) := by
  have silent := rounding.flags_eq_none nonneg member
  by_contra differ
  have inexact := rounding.inexact.mpr differ
  rw [silent] at inexact
  exact Bool.false_ne_true inexact

end Format

namespace Carrier

theorem double_widens {carrier : Carrier} (narrow : carrier ≠ extended) :
    Format.double.Widens carrier.format := by
  cases carrier with
  | half | single | double => exact ⟨by decide, by decide, by decide⟩
  | extended => exact absurd rfl narrow

/-- Between different types a finite value is rounded correctly. -/
theorem convertOnce_isRounding {source target : Carrier} (differ : source ≠ target) {pattern : ℕ}
    (finite : source.format.isFinite pattern = true) :
    ∃ flags, target.format.IsRounding .nearestEven (source.format.isNegative pattern)
      (source.format.magnitudeOf pattern) ⟨source.convertOnce target pattern, flags⟩ := by
  have number := source.format.isNaN_of_finite finite
  unfold convertOnce
  dsimp only
  rw [if_neg differ, number, if_neg Bool.false_ne_true, source.format.significandOf?_eq finite,
    source.format.placeOf?_eq finite, Format.magnitudeOf_eq, Format.magnitudeAt]
  exact ⟨_, target.format.roundExact_isRounding .nearestEven _ _ _⟩

/-- What is not finite is converted to something that is not finite. -/
theorem convertOnce_not_finite {source target : Carrier} {pattern : ℕ}
    (special : source.format.isFinite pattern = false) :
    target.format.isFinite (source.convertOnce target pattern) = false := by
  unfold convertOnce
  dsimp only
  split
  · next same => rwa [← same]
  · split
    · obtain ⟨kept, small, converted⟩ := source.convertNaN_eq target pattern
      rw [converted]
      exact target.format.isFinite_infinity_add _ small
    · have field : source.format.exponentField pattern = source.format.exponentMask := by
        simpa [Format.isFinite] using special
      have none : source.format.significandOf? pattern = none := if_pos field
      have infinite := target.format.isFinite_infinity_add (source.format.isNegative pattern)
        (Nat.two_pow_pos target.format.fractionBits)
      rw [Nat.add_zero] at infinite
      rw [none]
      exact infinite

/-- Conversion to the 64-bit format takes one step. -/
theorem convert_double (source : Carrier) (pattern : ℕ) :
    source.convert .double pattern = source.convertOnce .double pattern := by
  cases source <;> rfl

/-- A finite value that the 64-bit format has is converted to itself. -/
theorem realOf_convert_double {source : Carrier} {pattern : ℕ}
    (finite : source.format.isFinite pattern = true)
    (member : source.format.valueOf pattern ∈ Format.double.values) :
    Format.double.isFinite (source.convert .double pattern) = true ∧
      Format.double.realOf (source.convert .double pattern) = source.format.realOf pattern := by
  by_cases same : source = double
  · subst same
    exact ⟨finite, rfl⟩
  · obtain ⟨flags, rounding⟩ := convertOnce_isRounding same finite
    rw [source.format.valueOf_of_finite finite] at member
    have nonneg : 0 ≤ source.format.magnitudeOf pattern := by
      rw [Format.magnitudeOf_eq]
      exact source.format.magnitudeAt_nonneg _
    have value := rounding.valueOf_eq nonneg member
    have number := rounding.isNumber
    dsimp only [Carrier.format] at value number
    have converted := Format.double.isFinite_of_valueOf number
      (value.trans_ne (EReal.coe_ne_top _)) (value.trans_ne (EReal.coe_ne_bot _))
    rw [Format.double.valueOf_of_finite converted, EReal.coe_eq_coe_iff] at value
    rw [source.convert_double]
    exact ⟨converted, value⟩

end Carrier

/-! ## Numbers -/

namespace Value

/-- An integer of any size or of fixed width, a plain number or a number of a machine type. -/
def IsNumeric : Value → Prop
  | int _ | fixed _ _ | number _ | scalar _ _ => True
  | _ => False

/-- The exact value of a number. A NaN has none. -/
noncomputable def exactReal? : Value → Option EReal
  | int value | fixed _ value => some (value : ℝ)
  | number pattern =>
    if Format.double.isNaN pattern then Option.none else some (Format.double.valueOf pattern)
  | scalar carrier pattern =>
    if carrier.format.isNaN pattern then Option.none else some (carrier.format.valueOf pattern)
  | _ => Option.none

/-- The 64-bit format has the value of a number, if that has to go through the format. -/
def IsReadExactly : Value → Prop
  | scalar .extended pattern =>
    Format.extended.isFinite pattern = true →
      Format.extended.valueOf pattern ∈ Format.double.values
  | _ => True

/-- A number of a machine type is read in the 64-bit format. -/
theorem toInteger?_scalar (source : Carrier) (pattern : ℕ) :
    (scalar source pattern).toInteger? =
      Reference.integer? Format.double (source.convert .double pattern) := by
  unfold Reference.integer?
  simp only [toInteger?, toDouble?, Option.bind_eq_bind, Option.bind_some]
  cases Format.double.scaled? (source.convert .double pattern) with
  | none => rfl
  | some pair =>
    push_cast
    rfl

/-- The exact value of a pattern is an integer if that is its real value. -/
theorem exactOf_eq_some_iff (format : Format) (pattern : ℕ) (value : ℤ) :
    (if format.isNaN pattern then Option.none else some (format.valueOf pattern)) =
        some ((value : ℝ) : EReal) ↔
      format.isFinite pattern = true ∧ format.realOf pattern = value := by
  cases finite : format.isFinite pattern with
  | true =>
    rw [format.isNaN_of_finite finite, if_neg Bool.false_ne_true, format.valueOf_of_finite finite,
      Option.some.injEq, EReal.coe_eq_coe_iff, and_iff_right rfl]
  | false =>
    refine iff_of_false ?_ fun both => Bool.false_ne_true both.1
    split
    · exact nofun
    · next number =>
      intro same
      have value := Option.some.inj same
      rw [format.isFinite_of_valueOf (Bool.eq_false_iff.mpr number)
        (value.trans_ne (EReal.coe_ne_top _)) (value.trans_ne (EReal.coe_ne_bot _))] at finite
      exact absurd finite (by decide)

/-- A number of a machine type whose value the 64-bit format has is read as what it is. -/
theorem toInteger?_scalar_iff (source : Carrier) {pattern : ℕ}
    (member : source.format.isFinite pattern = true →
      source.format.valueOf pattern ∈ Format.double.values) (value : ℤ) :
    (scalar source pattern).toInteger? = some value ↔
      source.format.isFinite pattern = true ∧ source.format.realOf pattern = value := by
  rw [toInteger?_scalar, Reference.integer?_eq_some_iff]
  cases finite : source.format.isFinite pattern with
  | true =>
    obtain ⟨converted, same⟩ := Carrier.realOf_convert_double finite (member finite)
    rw [converted, same]
  | false =>
    have special := @Carrier.convertOnce_not_finite source .double pattern finite
    rw [← source.convert_double] at special
    exact iff_of_false (fun both => Bool.false_ne_true (special.symm.trans both.1))
      fun both => Bool.false_ne_true both.1

/-- A number is read as the integer that it is, and as none if it is no integer. -/
theorem toInteger?_of_isReadExactly {value : Value} (numeric : value.IsNumeric)
    (exactly : value.IsReadExactly) (integer : ℤ) :
    value.toInteger? = some integer ↔ value.exactReal? = some ((integer : ℝ) : EReal) := by
  have same (other : ℤ) : some other = some integer ↔
      some (((other : ℝ) : EReal)) = some ((integer : ℝ) : EReal) := by
    rw [Option.some.injEq, Option.some.injEq, EReal.coe_eq_coe_iff, Int.cast_inj]
  cases value with
  | int other => exact same other
  | fixed kind other => exact same other
  | number pattern =>
    rw [exactReal?, exactOf_eq_some_iff]
    exact toInteger?_scalar_iff .double (Carrier.double_widens (by decide)).valueOf_mem integer
  | scalar source pattern =>
    rw [exactReal?, exactOf_eq_some_iff]
    refine toInteger?_scalar_iff source ?_ integer
    cases source with
    | half | single | double => exact (Carrier.double_widens (by decide)).valueOf_mem
    | extended => exact exactly
  | none | bool _ | text _ | tuple _ | bits _ => exact numeric.elim

end Value

/-- Of two integers the check wants no less than that they are equal, but for the quotient of a
remainder. -/
theorem judgeInteger_eq_none_iff {routine : Routine} (exact : routine ≠ .remquo) (expected : ℤ)
    (result : Value) :
    judgeInteger routine expected result = .ok none ↔ result.toInteger? = some expected := by
  unfold judgeInteger
  cases result.toInteger? with
  | none =>
    dsimp only
    split
    · exact iff_of_false nofun nofun
    · exact iff_of_false nofun nofun
  | some actual =>
    have matches_iff : routine.integerMatches expected actual = true ↔ expected = actual := by
      unfold Routine.integerMatches
      split
      · exact absurd rfl exact
      · exact beq_iff_eq
    dsimp only
    rw [Option.some.injEq, eq_comm (a := actual), ← matches_iff]
    split
    · next same => exact iff_of_true rfl same
    · next differ =>
      split
      · exact iff_of_false nofun differ
      · exact iff_of_false nofun differ

/-- What the check of an integer output reads. A number whose value the 64-bit format has, which
only the extended type may lack, is read as the integer that it is, and as none if it is no integer;
so it is accepted just if it is the expected integer. Another number of the extended type is first
rounded to nearest even, and what comes out is read and compared. -/
theorem toInteger?_spec {value : Value} (numeric : value.IsNumeric) :
    (value.IsReadExactly →
      (∀ integer : ℤ, value.toInteger? = some integer ↔
        value.exactReal? = some ((integer : ℝ) : EReal)) ∧
      (∀ (routine : Routine) (expected : ℤ), routine ≠ .remquo →
        (judgeInteger routine expected value = .ok none ↔
          value.exactReal? = some ((expected : ℝ) : EReal)))) ∧
    ((∀ pattern, value ≠ .scalar .extended pattern) → value.IsReadExactly) ∧
    (∀ pattern : ℕ, value = .scalar .extended pattern → Format.extended.isFinite pattern = true →
      ∃ rounded, Format.double.IsRounding .nearestEven (Format.extended.isNegative pattern)
          (Format.extended.magnitudeOf pattern) rounded ∧
        (∀ integer : ℤ, value.toInteger? = some integer ↔
          Format.double.valueOf rounded.pattern = ((integer : ℝ) : EReal)) ∧
        (∀ (routine : Routine) (expected : ℤ), routine ≠ .remquo →
          (judgeInteger routine expected value = .ok none ↔
            Format.double.valueOf rounded.pattern = ((expected : ℝ) : EReal)))) := by
  refine ⟨fun exactly => ?_, fun other => ?_, ?_⟩
  · have read := Value.toInteger?_of_isReadExactly numeric exactly
    exact ⟨read, fun routine expected exact =>
      (judgeInteger_eq_none_iff exact expected value).trans (read expected)⟩
  · unfold Value.IsReadExactly
    split
    · next pattern => exact absurd rfl (other pattern)
    · trivial
  · rintro pattern rfl finite
    obtain ⟨flags, rounding⟩ :=
      @Carrier.convertOnce_isRounding .extended .double (by decide) pattern finite
    have read (integer : ℤ) : (Value.scalar .extended pattern).toInteger? = some integer ↔
        Format.double.valueOf (Carrier.extended.convertOnce .double pattern) =
          ((integer : ℝ) : EReal) := by
      have number : Format.double.isNaN (Carrier.extended.convert .double pattern) = false :=
        rounding.isNumber
      rw [Value.toInteger?_scalar, Reference.integer?_eq_some_iff, ← Value.exactOf_eq_some_iff,
        number, if_neg Bool.false_ne_true, Option.some.injEq]
      rfl
    exact ⟨_, rounding, read, fun routine expected exact =>
      (judgeInteger_eq_none_iff exact expected _).trans (read expected)⟩

/-- The plain number three is accepted as what it is. The least number above one in the extended
format is rounded to one. -/
theorem toInteger?_spec_ilogb :
    (Value.number 0x4008000000000000).exactReal? = some (((3 : ℤ) : ℝ) : EReal) ∧
      ∃ rounded, Format.double.IsRounding .nearestEven
          (Format.extended.isNegative (0x1fff8000000000000001 : ℕ))
          (Format.extended.magnitudeOf (0x1fff8000000000000001 : ℕ)) rounded ∧
        Format.double.valueOf rounded.pattern = (((1 : ℤ) : ℝ) : EReal) := by
  have numeric : (Value.number 0x4008000000000000).IsNumeric := trivial
  have numeric' : (Value.scalar .extended 0x1fff8000000000000001).IsNumeric := trivial
  obtain ⟨exact, always, -⟩ := toInteger?_spec numeric
  refine ⟨((exact (always nofun)).2 .ilogb 3 (by decide)).mp rfl, ?_⟩
  obtain ⟨rounded, rounding, read, -⟩ :=
    (toInteger?_spec numeric').2.2 0x1fff8000000000000001 rfl (by decide)
  exact ⟨rounded, rounding, (read 1).mp rfl⟩

/-- The extended format has a number between one and the next one in the 64-bit format. It is read
as one, although it is no integer, and accepted as the exponent of two. -/
theorem toInteger?_rounds_extended :
    (Value.scalar .extended 0x1fff8000000000000001).toInteger? = some 1 ∧
      (∀ integer : ℤ, (Value.scalar .extended 0x1fff8000000000000001).exactReal? ≠
        some ((integer : ℝ) : EReal)) ∧
      judgeInteger .ilogb 1 (.scalar .extended 0x1fff8000000000000001) = .ok none := by
  refine ⟨rfl, fun integer => ?_, rfl⟩
  rw [Ne, Value.exactReal?, Value.exactOf_eq_some_iff, ← Reference.integer?_eq_some_iff]
  have none : Reference.integer? Format.extended 0x1fff8000000000000001 = none := rfl
  exact (none.trans_ne nofun)

end LibmAudit
