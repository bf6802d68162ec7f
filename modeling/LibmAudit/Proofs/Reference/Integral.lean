/-
**Rounding to integers is exact.**

A value with a fraction is shorter than the precision, so that every integer next to it is a value
of the format, and one that lengthens the significand by a carry is a power of two. The integer that
the mode prescribes is therefore given without a second rounding.

* `Mode.Prescribes`: the integer that a mode prescribes for a number, with
  `Prescribes.mono`, `Prescribes.unique` and `prescribes_intCast`.
* `Reference.integral_signBit_add`: the reference library gives the magnitude of that integer, with
  the sign of the value.
* `Reference.IsIntegerRounding`: what rounding a pattern to an integer has to give.
* `Reference.roundsToIntegers`: the six routines give it, with their exceptions, and so they are
  idempotent and monotone.
-/

import LibmAudit.Proofs.Native.Round
import LibmAudit.Proofs.Reference.Remainders
import LibmAudit.Proofs.Reference.Roots

namespace LibmAudit

attribute [local instance (high)] instPowNat

variable {format : Format}

/-! ## The integer of a mode -/

theorem intCast_signed (negative : Bool) (n : ℤ) :
    ((signed negative n : ℤ) : ℝ) = signed negative (n : ℝ) := by
  cases negative
  · rfl
  · exact Int.cast_neg n

namespace Mode

/-- The integer that a mode prescribes for a number. -/
def Prescribes (mode : Mode) (y : ℝ) (n : ℤ) : Prop :=
  match mode with
  | nearestEven => IsNearestEven y n
  | nearestAway => |y - n| ≤ 1 / 2 ∧ (|y - n| = 1 / 2 → |y| < |(n : ℝ)|)
  | up => n = ⌈y⌉
  | down => n = ⌊y⌋
  | towardZero => n = if y < 0 then ⌈y⌉ else ⌊y⌋
  | awayFromZero => n = if y < 0 then ⌊y⌋ else ⌈y⌉

variable {mode : Mode} {y z : ℝ} {n m : ℤ}

/-- Nearest integers that are not in the order of the numbers belong to one number, in the middle
between them. -/
theorem middle_of_nearest (near : |y - n| ≤ 1 / 2) (near' : |z - m| ≤ 1 / 2) (le : y ≤ z)
    (less : m < n) : y = z ∧ n = m + 1 ∧ y = m + 1 / 2 := by
  rw [abs_le] at near near'
  have next : (m : ℝ) + 1 ≤ n := by exact_mod_cast less
  have same : (n : ℝ) = m + 1 := by linarith
  exact ⟨by linarith, by exact_mod_cast same, by linarith⟩

/-- A mode keeps the order. -/
theorem Prescribes.mono (given : mode.Prescribes y n) (given' : mode.Prescribes z m) (le : y ≤ z) :
    n ≤ m := by
  have floor := Int.floor_mono le
  have ceil := Int.ceil_mono le
  cases mode with
  | nearestEven =>
    by_contra less
    obtain ⟨rfl, rfl, middle⟩ := middle_of_nearest given.1 given'.1 le (not_le.mp less)
    have even : Even (m + 1) :=
      given.2 (by rw [middle, abs_eq (by norm_num)]; push_cast; right; ring)
    have even' : Even m := given'.2 (by rw [middle, abs_eq (by norm_num)]; left; ring)
    exact Int.even_add_one.mp even even'
  | nearestAway =>
    by_contra less
    obtain ⟨rfl, rfl, middle⟩ := middle_of_nearest given.1 given'.1 le (not_le.mp less)
    have above := given.2 (by rw [middle, abs_eq (by norm_num)]; push_cast; right; ring)
    have below := given'.2 (by rw [middle, abs_eq (by norm_num)]; left; ring)
    -- The middle is nearer to zero than both its neighbours, which only zero itself could be.
    rw [← sq_lt_sq, middle] at above below
    push_cast at above
    have upper : (m : ℝ) < 0 := by nlinarith
    have lower : (-1 : ℝ) < m := by nlinarith
    have upper' : m < 0 := by exact_mod_cast upper
    have lower' : -1 < m := by exact_mod_cast lower
    omega
  | up => exact given.trans_le (ceil.trans_eq given'.symm)
  | down => exact given.trans_le (floor.trans_eq given'.symm)
  | towardZero =>
    rw [given, given']
    split_ifs with negative negative'
    · exact ceil
    · have below : ⌈y⌉ ≤ 0 := Int.ceil_le.mpr (by exact_mod_cast negative.le)
      exact below.trans (Int.floor_nonneg.mpr (not_lt.mp negative'))
    · linarith
    · exact floor
  | awayFromZero =>
    rw [given, given']
    split_ifs with negative negative'
    · exact floor
    · exact floor.trans (Int.floor_le_ceil z)
    · linarith
    · exact ceil

theorem Prescribes.unique (given : mode.Prescribes y n) (given' : mode.Prescribes y m) : n = m :=
  le_antisymm (given.mono given' le_rfl) (given'.mono given le_rfl)

/-- An integer is its own rounding. -/
theorem prescribes_intCast (mode : Mode) (n : ℤ) : mode.Prescribes n n := by
  cases mode <;> simp [Prescribes, IsNearestEven]

theorem nearestEvenInteger_isNearestEven {x : ℝ} (nonneg : 0 ≤ x) :
    IsNearestEven x (nearestEvenInteger x : ℕ) := by
  have below := Nat.floor_le nonneg
  have above := Nat.lt_floor_add_one x
  unfold IsNearestEven nearestEvenInteger
  split_ifs with down
  · rw [Int.cast_natCast, abs_of_nonneg (sub_nonneg.mpr below)]
    refine ⟨?_, fun tie => (Int.even_coe_nat _).mpr ?_⟩
    · rcases down with less | ⟨tie, -⟩
      · exact less.le
      · exact tie.le
    · exact (down.resolve_left tie.not_lt).2
  · rw [not_or, not_lt, not_and] at down
    obtain ⟨far, odd⟩ := down
    rw [Int.cast_natCast, Nat.cast_add_one, abs_of_neg (by linarith)]
    refine ⟨by linarith, fun tie => (Int.even_coe_nat _).mpr ?_⟩
    exact Nat.even_add_one.mpr (odd (by linarith))

/-- A magnitude rounded with a sign is the integer that is prescribed for the number. -/
theorem prescribes_signed (mode : Mode) (negative : Bool) {x : ℝ} (nonneg : 0 ≤ x) :
    mode.Prescribes (signed negative x)
      (signed negative (mode.roundToInteger negative x : ℤ)) := by
  have floor : (⌊x⌋₊ : ℤ) = ⌊x⌋ := Int.natCast_floor_eq_floor nonneg
  have ceil : (⌈x⌉₊ : ℤ) = ⌈x⌉ := Int.natCast_ceil_eq_ceil nonneg
  cases mode with
  | nearestEven =>
    obtain ⟨near, even⟩ := nearestEvenInteger_isNearestEven nonneg
    unfold Prescribes IsNearestEven
    dsimp only
    rw [intCast_signed, abs_signed_sub]
    refine ⟨near, fun tie => ?_⟩
    cases negative
    · exact even tie
    · exact (even tie).neg
  | nearestAway =>
    have below := Nat.floor_le (show 0 ≤ x + 1 / 2 by linarith)
    have above := Nat.lt_floor_add_one (x + 1 / 2)
    unfold Prescribes
    dsimp only
    rw [intCast_signed, abs_signed_sub, abs_signed, abs_signed, abs_of_nonneg nonneg,
      roundToInteger, Int.cast_natCast, Nat.abs_cast, abs_le]
    refine ⟨⟨by linarith, by linarith⟩, fun tie => ?_⟩
    rcases (abs_eq (by norm_num)).mp tie with above' | below' <;> linarith
  | up =>
    cases negative
    · exact ceil
    · exact (congrArg Neg.neg floor).trans Int.ceil_neg.symm
  | down =>
    cases negative
    · exact floor
    · exact (congrArg Neg.neg ceil).trans Int.floor_neg.symm
  | towardZero => exact (quotientTowardZero_signed negative nonneg).symm
  | awayFromZero =>
    unfold Prescribes
    dsimp only
    cases negative
    · rw [if_neg (show ¬ signed false x < 0 from nonneg.not_gt)]
      exact ceil
    · rcases nonneg.eq_or_lt with rfl | positive
      · simp [roundToInteger]
      · rw [if_pos (show signed true x < 0 from neg_neg_of_pos positive)]
        exact (congrArg Neg.neg ceil).trans Int.floor_neg.symm

end Mode

namespace Reference

/-! ## Patterns -/

section

variable (mode : Mode) (negative : Bool) {ordinal : ℕ}

/-- At a place from one on there is no fraction. -/
theorem magnitudeAt_of_placeAt_nonneg (whole : 0 ≤ format.placeAt ordinal) :
    ∃ n : ℕ, format.magnitudeAt ordinal = n := by
  refine ⟨format.significandAt ordinal * 2 ^ (format.placeAt ordinal).toNat, ?_⟩
  have place := Int.toNat_of_nonneg whole
  rw [Format.magnitudeAt, ← place, zpow_natCast, Int.toNat_natCast, Nat.cast_mul, Nat.cast_pow,
    Nat.cast_ofNat]

/-- The bits below the point are the fraction. -/
theorem describes_rest (fraction : format.placeAt ordinal < 0) :
    Describes (format.magnitudeAt ordinal) (Native.wholeAt format ordinal)
      (Native.restAt format ordinal) (2 ^ (Native.places format ordinal - 1)) false := by
  have place : format.placeAt ordinal + (Native.places format ordinal : ℤ) = 0 := by
    unfold Native.places
    omega
  have some : 0 < Native.places format ordinal := by omega
  have given : StandsFor (format.significandAt ordinal) (format.placeAt ordinal) false
      (format.magnitudeAt ordinal) := rfl
  have described := given.describes some
  rwa [place, zpow_zero, div_one] at described

/-- An integer next to a value with a fraction is a value. -/
theorem roundExact_roundToInteger (room : format.fractionBits < format.emax)
    (fraction : format.placeAt ordinal < 0) :
    ∃ number < format.infinityOrdinal,
      (format.roundExact .nearestEven negative
        (mode.roundToInteger negative (format.magnitudeAt ordinal)) 0).pattern =
          format.signBit negative + number ∧
      format.magnitudeAt number = mode.roundToInteger negative (format.magnitudeAt ordinal) := by
  have small : format.magnitudeAt ordinal ≤ (2 ^ format.fractionBits : ℕ) := by
    have significand : (format.significandAt ordinal : ℝ) ≤ 2 * 2 ^ format.fractionBits := by
      exact_mod_cast (format.significandAt_lt ordinal).le.trans_eq format.two_pow_precision
    have place : (2 : ℝ) ^ format.placeAt ordinal ≤ 2 ^ (-1 : ℤ) :=
      zpow_le_zpow_right₀ one_le_two (by omega)
    calc format.magnitudeAt ordinal
        ≤ 2 * 2 ^ format.fractionBits * 2 ^ (-1 : ℤ) :=
          mul_le_mul significand place (by positivity) (by positivity)
      _ = (2 ^ format.fractionBits : ℕ) := by
          push_cast
          ring
  have bounded := mode.roundToInteger_le negative (format.magnitudeAt_nonneg ordinal) small
  have short : mode.roundToInteger negative (format.magnitudeAt ordinal) ≤ 2 ^ format.precision :=
    bounded.trans (format.two_pow_precision ▸ Nat.le_mul_of_pos_left _ two_pos)
  have below : (mode.roundToInteger negative (format.magnitudeAt ordinal) * 2 ^ (0 : ℤ) : ℝ) <
      2 ^ (format.emax + 1) := by
    rw [zpow_zero, mul_one]
    calc (mode.roundToInteger negative (format.magnitudeAt ordinal) : ℝ)
        ≤ (2 ^ format.fractionBits : ℕ) := by exact_mod_cast bounded
      _ = 2 ^ (format.fractionBits : ℤ) := by rw [zpow_natCast, Nat.cast_pow, Nat.cast_ofNat]
      _ < 2 ^ (format.emax + 1) := zpow_lt_zpow_right₀ one_lt_two (by omega)
  obtain ⟨number, finite, pattern, magnitude⟩ :=
    Format.roundExact_signBit_add negative short (Native.lowestPlace_lt format).le below
  rw [zpow_zero, mul_one] at magnitude
  exact ⟨number, finite, pattern, magnitude⟩

/-- A finite value that is no zero is rounded to the integer of the mode, with its sign. It changes
when it is no integer. -/
theorem integral_signBit_add (room : format.fractionBits < format.emax) (positive : 0 < ordinal)
    (finite : ordinal < format.infinityOrdinal) :
    ∃ number < format.infinityOrdinal,
      (integral format mode (format.signBit negative + ordinal)).1 =
        format.signBit negative + number ∧
      format.magnitudeAt number = mode.roundToInteger negative (format.magnitudeAt ordinal) ∧
      ((integral format mode (format.signBit negative + ordinal)).2 = true ↔
        ∀ n : ℕ, format.magnitudeAt ordinal ≠ n) := by
  have parts := parts?_signBit_add negative positive finite
  by_cases whole : 0 ≤ format.placeAt ordinal
  · obtain ⟨n, same⟩ := magnitudeAt_of_placeAt_nonneg whole
    have unchanged : integral format mode (format.signBit negative + ordinal) =
        (format.signBit negative + ordinal, false) := by
      rw [integral, parts]
      exact if_pos whole
    rw [unchanged]
    refine ⟨ordinal, finite, rfl, ?_, iff_of_false Bool.false_ne_true fun differs => differs n same⟩
    rw [same, Mode.roundToInteger_natCast]
  · rw [not_le] at whole
    have described := describes_rest whole
    have decision := described.roundToInteger_eq mode negative
    rw [Bool.or_false] at decision
    obtain ⟨number, finite', pattern, magnitude⟩ :=
      roundExact_roundToInteger mode negative room whole
    refine ⟨number, finite', ?_, magnitude, ?_⟩
    · rw [Native.integral_of_fraction negative positive finite whole, ← pattern, ← decision]
    · have changed : (integral format mode (format.signBit negative + ordinal)).2 =
          (Native.restAt format ordinal != 0) := by
        rw [integral, parts]
        dsimp only
        rw [if_neg (not_le.mpr whole)]
        rfl
      have inexact := described.inexact
      rw [or_iff_left Bool.false_ne_true] at inexact
      rw [changed, bne_iff_ne, inexact]
      constructor
      · intro differs n same
        refine differs ?_
        rw [← described.floor_eq, same, Nat.floor_natCast]
      · exact fun differs => differs _

end

/-! ## What rounding to an integer has to give -/

/-- The pattern has a finite value that is no integer. -/
def HasFraction (format : Format) (pattern : ℕ) : Prop :=
  format.isFinite pattern = true ∧ ∀ n : ℤ, format.realOf pattern ≠ n

/-- The pattern that rounding to an integer in a mode has to give. -/
structure IsIntegerRounding (format : Format) (mode : Mode) (pattern result : ℕ) : Prop where
  fits : result < 2 ^ format.totalBits
  prescribed : format.isFinite pattern = true → format.isFinite result = true ∧
    ∃ n : ℤ, format.realOf result = n ∧ mode.Prescribes (format.realOf pattern) n
  sign : format.isNegative result = format.isNegative pattern
  unchanged : ¬ HasFraction format pattern → result = pattern

/-- The value of a sign and a number is an integer together with its magnitude. -/
theorem hasFraction_signBit_add (negative : Bool) {ordinal : ℕ}
    (finite : ordinal < format.infinityOrdinal) :
    HasFraction format (format.signBit negative + ordinal) ↔
      ∀ n : ℕ, format.magnitudeAt ordinal ≠ n := by
  have value := format.realOf_signBit_add negative finite
  have nonneg := format.magnitudeAt_nonneg ordinal
  constructor
  · rintro ⟨-, differs⟩ n same
    refine differs (signed negative (n : ℤ)) ?_
    rw [value, same, intCast_signed, Int.cast_natCast]
  · intro differs
    refine ⟨format.isFinite_signBit_add negative finite, fun n same => differs n.natAbs ?_⟩
    rw [← abs_of_nonneg nonneg, ← abs_signed negative, ← value, same, Nat.cast_natAbs, Int.cast_abs]

/-- NaNs, infinities and zeros stay. -/
theorem isIntegerRounding_self {pattern : ℕ} (mode : Mode)
    (fits : pattern < 2 ^ format.totalBits)
    (whole : format.isFinite pattern = true → format.realOf pattern = 0) :
    IsIntegerRounding format mode pattern pattern := by
  refine ⟨fits, fun finite => ⟨finite, 0, ?_, ?_⟩, rfl, fun _ => rfl⟩
  · rw [whole finite, Int.cast_zero]
  · have integer := mode.prescribes_intCast 0
    rwa [Int.cast_zero, ← whole finite] at integer

/-- Rounding to an integer gives the pattern that it has to, and tells whether it changes it. -/
theorem integral_isIntegerRounding (room : format.fractionBits < format.emax) (mode : Mode)
    {pattern : ℕ} (fits : pattern < 2 ^ format.totalBits) :
    IsIntegerRounding format mode pattern (integral format mode pattern).1 ∧
      ((integral format mode pattern).2 = true ↔ HasFraction format pattern) := by
  have kept (none : parts? format pattern = none)
      (whole : format.isFinite pattern = true → format.realOf pattern = 0) :
      IsIntegerRounding format mode pattern (integral format mode pattern).1 ∧
        ((integral format mode pattern).2 = true ↔ HasFraction format pattern) := by
    have same : integral format mode pattern = (pattern, false) := by rw [integral, none]
    rw [same]
    refine ⟨isIntegerRounding_self mode fits whole, iff_of_false Bool.false_ne_true ?_⟩
    rintro ⟨finite, differs⟩
    exact differs 0 ((whole finite).trans Int.cast_zero.symm)
  cases class_of_fits fits with
  | nan isNaN _ none =>
    refine kept none fun finite => absurd finite (Bool.eq_false_iff.mp ?_)
    exact format.isFinite_eq_false_of_isNaN isNaN
  | infinite _ _ _ isInfinite none =>
    refine kept none fun finite => absurd finite (Bool.eq_false_iff.mp ?_)
    exact format.isFinite_eq_false_of_isInfinite isInfinite
  | zero negative same _ _ _ none =>
    refine kept none fun _ => ?_
    rw [same]
    exact format.realOf_zero negative
  | finite negative ordinal positive finite same _ _ _ _ =>
    subst same
    obtain ⟨number, finite', pattern, magnitude, changed⟩ :=
      integral_signBit_add mode negative room positive finite
    have value := format.realOf_signBit_add negative finite
    have value' := format.realOf_signBit_add negative finite'
    have small := finite.trans format.infinityOrdinal_lt
    have small' := finite'.trans format.infinityOrdinal_lt
    rw [changed, hasFraction_signBit_add negative finite, pattern]
    refine ⟨⟨format.signBit_add_lt negative small', fun _ => ?_, ?_, fun whole => ?_⟩, Iff.rfl⟩
    · refine ⟨format.isFinite_signBit_add negative finite',
        signed negative (mode.roundToInteger negative (format.magnitudeAt ordinal) : ℤ), ?_, ?_⟩
      · rw [value', magnitude, intCast_signed, Int.cast_natCast]
      · rw [value]
        exact mode.prescribes_signed negative (format.magnitudeAt_nonneg ordinal)
    · rw [format.isNegative_signBit_add negative small',
        format.isNegative_signBit_add negative small]
    · rw [hasFraction_signBit_add negative finite, not_forall] at whole
      obtain ⟨n, integer⟩ := whole
      rw [not_not] at integer
      rw [integer, Mode.roundToInteger_natCast, ← integer] at magnitude
      rw [format.magnitudeAt_strictMono.injective magnitude]

namespace IsIntegerRounding

variable {mode : Mode} {pattern result first second first' second' : ℕ}

/-- The result has no fraction, so that it is not rounded again. -/
theorem not_hasFraction (rounding : IsIntegerRounding format mode pattern result) :
    ¬ HasFraction format result := by
  by_cases fraction : HasFraction format pattern
  · obtain ⟨-, n, integer, -⟩ := rounding.prescribed fraction.1
    exact fun ⟨_, differs⟩ => differs n integer
  · rw [rounding.unchanged fraction]
    exact fraction

/-- Values that are not finite stay. -/
theorem eq_of_not_finite (rounding : IsIntegerRounding format mode pattern result)
    (infinite : ¬ format.isFinite pattern = true) : result = pattern :=
  rounding.unchanged fun fraction => infinite fraction.1

/-- Rounding to integers keeps the order, infinities included. -/
theorem valueOf_mono (rounding : IsIntegerRounding format mode first first')
    (rounding' : IsIntegerRounding format mode second second')
    (number : format.isNaN first = false) (number' : format.isNaN second = false)
    (le : format.valueOf first ≤ format.valueOf second) :
    format.valueOf first' ≤ format.valueOf second' := by
  by_cases top : format.valueOf second = ⊤
  · have infinite : ¬ format.isFinite second = true := by
      intro finite
      rw [format.valueOf_of_finite finite] at top
      exact EReal.coe_ne_top _ top
    rw [rounding'.eq_of_not_finite infinite, top]
    exact le_top
  by_cases bottom : format.valueOf first = ⊥
  · have infinite : ¬ format.isFinite first = true := by
      intro finite
      rw [format.valueOf_of_finite finite] at bottom
      exact EReal.coe_ne_bot _ bottom
    rw [rounding.eq_of_not_finite infinite, bottom]
    exact bot_le
  -- Between finite values the mode keeps the order.
  have finite := format.isFinite_of_valueOf number (fun same => top (top_le_iff.mp (same ▸ le)))
    bottom
  have finite' := format.isFinite_of_valueOf number' top
    (fun same => bottom (le_bot_iff.mp (same ▸ le)))
  obtain ⟨isFinite, n, integer, prescribed⟩ := rounding.prescribed finite
  obtain ⟨isFinite', m, integer', prescribed'⟩ := rounding'.prescribed finite'
  rw [format.valueOf_of_finite finite, format.valueOf_of_finite finite', EReal.coe_le_coe_iff] at le
  rw [format.valueOf_of_finite isFinite, format.valueOf_of_finite isFinite', integer, integer',
    EReal.coe_le_coe_iff, Int.cast_le]
  exact prescribed.mono prescribed' le

end IsIntegerRounding

/-! ## Calls -/

/-- The mode in which a routine rounds to integers. -/
inductive RoundsIn (ambient : Mode) : Routine → Mode → Prop
  | ceil : RoundsIn ambient .ceil .up
  | floor : RoundsIn ambient .floor .down
  | trunc : RoundsIn ambient .trunc .towardZero
  | round : RoundsIn ambient .round .nearestAway
  | rint : RoundsIn ambient .rint ambient
  | nearbyint : RoundsIn ambient .nearbyint ambient

/-- What a routine that rounds to integers does: the patterns that it gives are those of its mode,
it raises no exception but for `rint`, and it is idempotent and monotone. -/
structure RoundsToIntegers (format : Format) (routine : Routine) (ambient mode : Mode)
    (result : ℕ → ℕ) : Prop where
  calls : ∀ pattern < 2 ^ format.totalBits, ∃ inexact : Bool,
    LibraryKind.reference.call routine format ambient [.float pattern] =
        .ok ⟨[.float (result pattern)], { inexact := inexact }⟩ ∧
      (inexact = true ↔ routine = .rint ∧ HasFraction format pattern) ∧
      IsIntegerRounding format mode pattern (result pattern)
  idempotent : ∀ pattern < 2 ^ format.totalBits,
    LibraryKind.reference.call routine format ambient [.float (result pattern)] =
      .ok ⟨[.float (result pattern)], .none⟩
  monotone : ∀ first second : ℕ, first < 2 ^ format.totalBits → second < 2 ^ format.totalBits →
    format.isNaN first = false → format.isNaN second = false →
      format.valueOf first ≤ format.valueOf second →
        format.valueOf (result first) ≤ format.valueOf (result second)

/-- A routine gives the integral pattern; `rint` alone tells whether that is another one. -/
theorem RoundsIn.call_eq (format : Format) {routine : Routine} {ambient mode : Mode}
    (rounds : RoundsIn ambient routine mode) (pattern : ℕ) : ∃ inexact : Bool,
      LibraryKind.reference.call routine format ambient [.float pattern] =
          .ok ⟨[.float (integral format mode pattern).1], { inexact := inexact }⟩ ∧
        (inexact = true ↔ routine = .rint ∧ (integral format mode pattern).2 = true) := by
  cases rounds with
  | rint => exact ⟨(integral format _ pattern).2, rfl, (and_iff_right rfl).symm⟩
  | ceil | floor | trunc | round | nearbyint =>
    exact ⟨false, rfl, iff_of_false Bool.false_ne_true nofun⟩

/-- **Rounding to integers is exact.** The six routines give the integer that their mode prescribes,
with the sign of the value, and leave integers, infinities and NaNs as they are. They are idempotent
and keep the order of the values, and `rint` is inexact for values with a fraction. -/
theorem roundsToIntegers {carrier : Carrier} (stored : format.carrier? = some carrier)
    {routine : Routine} {ambient mode : Mode} (rounds : RoundsIn ambient routine mode) :
    ∃ result : ℕ → ℕ, RoundsToIntegers format routine ambient mode result := by
  obtain rfl := Format.format_of_carrier? stored
  have room := fractionBits_lt_emax carrier
  generalize carrier.format = format at *
  have rounding {pattern : ℕ} (fits : pattern < 2 ^ format.totalBits) :=
    integral_isIntegerRounding room mode fits
  have calls : ∀ pattern < 2 ^ format.totalBits, ∃ inexact : Bool,
      LibraryKind.reference.call routine format ambient [.float pattern] =
          .ok ⟨[.float (integral format mode pattern).1], { inexact := inexact }⟩ ∧
        (inexact = true ↔ routine = .rint ∧ HasFraction format pattern) := by
    intro pattern fits
    obtain ⟨inexact, called, raised⟩ := rounds.call_eq format pattern
    rw [(rounding fits).2] at raised
    exact ⟨inexact, called, raised⟩
  refine ⟨fun pattern => (integral format mode pattern).1, ?_, ?_, ?_⟩
  · intro pattern fits
    obtain ⟨inexact, called, raised⟩ := calls pattern fits
    exact ⟨inexact, called, raised, (rounding fits).1⟩
  · intro pattern fits
    have first := (rounding fits).1
    obtain ⟨inexact, called, raised⟩ := calls _ first.fits
    have exact : inexact = false :=
      Bool.eq_false_iff.mpr fun isSet => first.not_hasFraction (raised.mp isSet).2
    rw [exact, (rounding first.fits).1.unchanged first.not_hasFraction] at called
    exact called
  · intro first second fits fits' number number' le
    exact (rounding fits).1.valueOf_mono (rounding fits').1 number number' le

/-- Minus one half is rounded up to the negative zero. -/
theorem roundsToIntegers_half :
    Format.half.carrier? = some .half ∧ RoundsIn .up .rint .up ∧
      ∃ result : ℕ → ℕ, RoundsToIntegers .half .rint .up .up result ∧
        LibraryKind.reference.call .rint .half .up [.float 0xb800] =
          .ok ⟨[.float 0x8000], { inexact := true }⟩ ∧ result 0xb800 = 0x8000 := by
  have stored : Format.half.carrier? = some .half := by decide
  have evaluated : LibraryKind.reference.call .rint .half .up [.float 0xb800] =
      .ok ⟨[.float 0x8000], { inexact := true }⟩ := by rfl
  obtain ⟨result, rounds⟩ := roundsToIntegers stored (.rint : RoundsIn .up .rint .up)
  obtain ⟨inexact, called, -⟩ := rounds.calls 0xb800 (by decide)
  rw [evaluated] at called
  have same : result 0xb800 = 0x8000 := by
    injection called with responses
    injection responses with outputs
    injection outputs with output
    injection output with pattern
    exact pattern.symm
  exact ⟨stored, .rint, result, rounds, evaluated, same⟩

end Reference

end LibmAudit
